import AccessControl.Identifier
import AccessControl.Text.Numeral

/-! # Faults

The reasons for which a call is refused or fails. Each belongs to a kind and has one wording. -/

namespace AccessControl

/-- What a fault means to the caller. -/
inductive Fault.Kind where
  | validation
  | notFound
  | conflict
  | unauthorized
  | forbidden
  | internal
deriving DecidableEq, Repr

/-- What a database reports: a message of its own, or an answer that cannot be used. -/
inductive DatabaseFault where
  | server (code message : String)
  | unusable
deriving DecidableEq, Repr

inductive Fault where
  -- Texts and names
  | blankText
  | badIdentifier (kind : Entity) (text : String)
  | unknownAction (name : String)
  | unknownResourceType (name : String)
  | permissionForm (text : String)
  | outsideCatalog (permission : String)
  | unknownLegacyRole (name : String)
  -- Roles and their grants
  | roleKeyLength
  | roleKeyStart (key : String)
  | roleKeyCharacters (key : String)
  | negativePriority (value : Int)
  | excessivePriority (value : Int)
  | hoursOutOfRange (start stop : Nat)
  | emptyHours
  | hoursMissing
  | emptyScope
  | blankScopeId
  | repeatedPermission (permission : String)
  | systemRoleChange (key : String)
  | systemRoleDeletion (key : String)
  | roleNotFound (id : RoleId)
  | roleKeyTaken (key : String)
  | roleReferenced (id : RoleId)
  | roleAssigned (key : String) (memberships : Nat)
  | roleDelegated (key : String) (delegations : Nat)
  | grantHeld (key permission : String)
  | grantNotHeld (key permission : String)
  | grantStored (id : RoleId) (resourceType action : String)
  | grantNotStored (id : RoleId) (permission : String)
  | grantListedTwice (key resourceType action : String)
  -- Members
  | notMember (user : UserId) (organization : OrganizationId)
  | recipientNotActive (user : UserId) (organization : OrganizationId)
  | actorNotActive (user : UserId) (organization : OrganizationId)
  | priorityCeiling (priority own : Nat)
  | notPermitted (user : UserId) (action resourceType : String) (organization : OrganizationId)
  -- Delegations
  | selfDelegation
  | delegationWindow
  | delegationOutranks (priority own : Nat)
  | emptyDelegation
  | unknownDelegatedPermission (resourceType action : String)
  | mixedDelegation
  | permissionNotHeld (permission : String)
  | delegationRevoked (id : DelegationId)
  | delegationExpired (id : DelegationId)
  | delegationNotExtendable (id : DelegationId) (status : String)
  | delegationEndNotLater
  | delegationNotFound (id : DelegationId)
  | delegationExists (id : DelegationId)
  -- Overrides
  | selfOverride
  | blankResourceId
  | overrideExpiryPassed
  | overrideRevoked (id : OverrideId)
  | overrideNotExtendable (id : OverrideId) (status : String)
  | overridePermanent (id : OverrideId)
  | overrideExpiryNotLater
  | overrideNotFound (id : OverrideId)
  | overrideExists (id : OverrideId)
  -- The audit log
  | auditWindow
  | auditRetention (most : Nat)
  | auditQueueFull
  | auditQueueStopped
  -- Stored rows and other programs
  | storedRoleKey (key : String) (cause : Fault)
  | storedRoleName (key : String) (cause : Fault)
  | storedPriority (key : String) (cause : Fault)
  | storedLegacyRole (name : String) (cause : Fault)
  | storedMembership (user : UserId) (organization : OrganizationId)
  | database (task : String) (cause : DatabaseFault)
  | cacheServer (task : String)
  | cacheEntry
  | unavailable (call : String)
  -- Requests
  | badActorHeader
  | anonymous
  -- Configuration
  | databaseUrlMissing
  | cacheBackend (name : String)
  | cacheTtlForm (cause : NumeralFault)
  | cacheTtlTooLong (most : Nat)
  | expiryMinutes (text : String)
  | queueCapacity (text : String)
  | redisUrlMissing
  | redisUrl
  | host (text : String)
  | listener
  -- Bounds of the machine
  | calendarOverflow
  | queueOverflow
deriving DecidableEq, Repr

def DatabaseFault.message : DatabaseFault → String
  | .server _ message => s!"error returned from database: {message}"
  | .unusable => "<database error>"

namespace Fault

def kind : Fault → Kind
  | roleNotFound _ | grantNotHeld .. | grantNotStored .. | notMember .. | delegationNotFound _
  | overrideNotFound _ => .notFound
  | roleKeyTaken _ | roleReferenced _ | roleAssigned .. | roleDelegated .. | grantHeld ..
  | grantStored .. | grantListedTwice .. | delegationRevoked _ | delegationExists _
  | overrideRevoked _ | overrideExists _ => .conflict
  | badActorHeader | anonymous => .unauthorized
  | actorNotActive .. | priorityCeiling .. | notPermitted .. | permissionNotHeld _
  | selfOverride => .forbidden
  | auditQueueFull | auditQueueStopped | storedRoleKey .. | storedRoleName .. | storedPriority ..
  | storedLegacyRole .. | storedMembership .. | database .. | cacheServer _ | cacheEntry
  | unavailable _ | host _ | listener | calendarOverflow | queueOverflow => .internal
  | _ => .validation

/-- What a message begins with when its kind is to be read off it. -/
def Kind.label : Kind → String
  | .validation => "validation error"
  | .notFound => "not found"
  | .conflict => "conflict"
  | .unauthorized => "unauthorized"
  | .forbidden => "forbidden"
  | .internal => "internal error"

def Kind.name : Kind → String
  | .validation => "Validation"
  | .notFound => "NotFound"
  | .conflict => "Conflict"
  | .unauthorized => "Unauthorized"
  | .forbidden => "Forbidden"
  | .internal => "Internal"

def Kind.labelled (kind : Kind) (message : String) : String := s!"{kind.label}: {message}"

def message : Fault → String
  | blankText => "value must not be empty or whitespace"
  | badIdentifier kind text => s!"invalid {kind.idName} '{text}': <uuid error>"
  | unknownAction name => s!"unknown action '{name}'"
  | unknownResourceType name => s!"resource type '{name}' is not allowed"
  | permissionForm text => s!"permission '{text}' must use the '<resource_type>.<action>' form"
  | outsideCatalog permission => s!"permission '{permission}' is not part of the catalog"
  | unknownLegacyRole name => s!"unknown legacy role '{name}'"
  | roleKeyLength => "role key must be between 1 and 50 characters"
  | roleKeyStart key => s!"role key '{key}' must start with a lowercase letter"
  | roleKeyCharacters key =>
    s!"role key '{key}' may only contain lowercase letters, digits and underscores"
  | negativePriority value => s!"role priority must not be negative, got {value}"
  | excessivePriority value => s!"role priority must not exceed 1000, got {value}"
  | hoursOutOfRange start stop => s!"allowed_hours must be within 0..=24, got {start}..{stop}"
  | emptyHours => "allowed_hours must not be an empty window"
  | hoursMissing => "time_restricted conditions require allowed_hours"
  | emptyScope => "scope.service_ids must not be empty when present"
  | blankScopeId => "scope.service_ids must not contain blank ids"
  | repeatedPermission permission => s!"permission '{permission}' is listed more than once"
  | systemRoleChange key => s!"system role '{key}' cannot be modified"
  | systemRoleDeletion key => s!"system role '{key}' cannot be deleted"
  | roleNotFound id => s!"role '{id}' not found"
  | roleKeyTaken key => s!"role key '{key}' is already taken"
  | roleReferenced id => s!"role '{id}' is still referenced by memberships or delegations"
  | roleAssigned key n => s!"role '{key}' is still assigned to {n} membership(s)"
  | roleDelegated key n => s!"role '{key}' is still referenced by {n} delegation(s)"
  | grantHeld key permission => s!"role '{key}' already grants '{permission}'"
  | grantNotHeld key permission => s!"role '{key}' does not grant '{permission}'"
  | grantStored id resourceType action =>
    s!"role '{id}' already grants '{resourceType}:{action}'"
  | grantNotStored id permission => s!"role '{id}' does not grant '{permission}'"
  | grantListedTwice key resourceType action =>
    s!"role '{key}' lists '{resourceType}:{action}' twice"
  | notMember user organization =>
    s!"user '{user}' is not a member of organization '{organization}'"
  | recipientNotActive user organization | actorNotActive user organization =>
    s!"user '{user}' is not an active member of organization '{organization}'"
  | priorityCeiling priority own => s!"priority {priority} exceeds own priority {own}"
  | notPermitted user action resourceType organization =>
    s!"user '{user}' may not {action} {resourceType} in organization '{organization}'"
  | selfDelegation => "a user cannot delegate permissions to themselves"
  | delegationWindow => "delegation end must be after its start"
  | delegationOutranks priority own =>
    s!"cannot delegate a role with priority {priority} above own priority {own}"
  | emptyDelegation => "delegation must include a role or at least one permission"
  | unknownDelegatedPermission resourceType action =>
    s!"cannot delegate unknown permission '{resourceType}.{action}'"
  | mixedDelegation => "delegation must carry either a role or permissions, not both"
  | permissionNotHeld permission => s!"cannot delegate '{permission}' without holding it"
  | delegationRevoked id => s!"delegation '{id}' is already revoked"
  | delegationExpired id => s!"delegation '{id}' has already expired"
  | delegationNotExtendable id status =>
    s!"delegation '{id}' cannot be extended while {status}"
  | delegationEndNotLater => "extended delegation end must be later than the current end"
  | delegationNotFound id => s!"delegation '{id}' not found"
  | delegationExists id => s!"delegation '{id}' already exists"
  | selfOverride => "cannot issue resource overrides to yourself"
  | blankResourceId => "resource_id must not be empty"
  | overrideExpiryPassed => "resource permission expiry must be in the future"
  | overrideRevoked id => s!"resource permission '{id}' is already revoked"
  | overrideNotExtendable id status =>
    s!"resource permission '{id}' cannot be extended while {status}"
  | overridePermanent id => s!"resource permission '{id}' is permanent and cannot be extended"
  | overrideExpiryNotLater => "extended expiry must be later than the current expiry"
  | overrideNotFound id => s!"resource permission '{id}' not found"
  | overrideExists id => s!"resource permission '{id}' already exists"
  | auditWindow => "audit summary window end must be after its start"
  | auditRetention most => s!"audit retention must be between 1 and {most} days"
  | auditQueueFull => "audit queue is full"
  | auditQueueStopped => "audit queue writer has stopped"
  | storedRoleKey key cause =>
    s!"invalid stored role key '{key}': " ++ cause.kind.labelled cause.message
  | storedRoleName key cause =>
    s!"invalid stored name of role '{key}': " ++ cause.kind.labelled cause.message
  | storedPriority key cause =>
    s!"invalid stored priority of role '{key}': " ++ cause.kind.labelled cause.message
  | storedLegacyRole name cause =>
    s!"invalid stored legacy role '{name}': " ++ cause.kind.labelled cause.message
  | storedMembership user organization =>
    s!"membership of '{user}' in organization '{organization}' has no role"
  | database task cause => s!"failed to {task}: " ++ cause.message
  | cacheServer task => s!"failed to {task}: <redis error>"
  | cacheEntry => "invalid capability cache entry: <decode error>"
  | unavailable call => s!"injected {call} failure"
  | badActorHeader => "invalid x-actor-id header"
  | anonymous => "authentication required"
  | databaseUrlMissing => "DATABASE_URL is required"
  | cacheBackend name =>
    s!"CAPABILITY_CACHE_BACKEND must be either 'in_memory' or 'redis', got '{name}'"
  | cacheTtlForm cause => "invalid CAPABILITY_CACHE_TTL_SECONDS: " ++ cause.message
  | cacheTtlTooLong most => s!"CAPABILITY_CACHE_TTL_SECONDS must be at most {most}"
  | expiryMinutes text =>
    "RESOURCE_PERMISSION_DEFAULT_EXPIRY_MINUTES must be a positive number of minutes, "
      ++ s!"got '{text}'"
  | queueCapacity text => s!"AUDIT_QUEUE_CAPACITY must be a positive integer, got '{text}'"
  | redisUrlMissing => "REDIS_URL is required when CAPABILITY_CACHE_BACKEND=redis"
  | redisUrl => "invalid REDIS_URL: <redis error>"
  | host text => s!"invalid API_HOST '{text}': invalid IP address syntax"
  | listener => "failed to bind listener: <system error>"
  | calendarOverflow => "the calendar does not reach that far"
  | queueOverflow => "no queue is that long"

/-- The message with its kind in front. -/
def labelled (fault : Fault) : String := fault.kind.labelled fault.message

end Fault

/-- A result, or the fault that stood in its way. -/
abbrev Outcome (α : Type) := Except Fault α

/-- An identifier in any written form of a UUID, with blanks around it. -/
def Id.parse {kind : Entity} (s : String) : Outcome (Id kind) :=
  match ofText? (Text.trim s) with
  | some id => .ok id
  | none => .error (.badIdentifier kind s)

theorem Id.parse_of_trim {kind : Entity} {s : String} {id : Id kind}
    (h : Text.trim s = id.toString) : Id.parse s = .ok id := by
  have hread : ofText? (Text.trim s) = some id := by rw [h, ofText?_toString]
  unfold Id.parse
  rw [hread]

end AccessControl

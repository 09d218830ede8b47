import AccessControl.Instant.Basic
import AccessControl.Role

/-! # Delegations

A user hands a role or some permissions over to another user for a span of time. -/

namespace AccessControl

structure Delegation where
  id : DelegationId
  organization : OrganizationId
  delegator : UserId
  delegatee : UserId
  /-- The role that is handed over as a whole, if one is. -/
  role : Option RoleId
  permissions : List StoredPermission
  startsAt : Instant
  /-- Not in the span itself. -/
  endsAt : Instant
  /-- Cleared by revocation. -/
  active : Bool
  revokedAt : Option Instant
  reason : Option String
  createdAt : Instant
deriving DecidableEq, Repr

/-- What a new delegation hands over. -/
inductive Delegation.Share where
  | role (id : RoleId) (priority : RolePriority)
  | permissions (permissions : List StoredPermission)
deriving DecidableEq, Repr

structure Delegation.Draft where
  organization : OrganizationId
  delegator : UserId
  delegatee : UserId
  delegatorPriority : RolePriority
  share : Delegation.Share
  startsAt : Instant
  endsAt : Instant
  reason : Option String
deriving DecidableEq, Repr

inductive Delegation.Status where
  | scheduled
  | active
  | expired
  | revoked
deriving DecidableEq, Repr

namespace Delegation

def Status.name : Status → String
  | .scheduled => "scheduled"
  | .active => "active"
  | .expired => "expired"
  | .revoked => "revoked"

/-- The role or the permissions of a share that its delegator may hand over. -/
def Share.check (own : RolePriority) : Share → Outcome (Option RoleId × List StoredPermission)
  | .role id priority =>
    if own < priority then .error (.delegationOutranks priority.value own.value)
    else .ok (some id, [])
  | .permissions names =>
    if names.isEmpty then .error .emptyDelegation
    else match names.find? fun p => p.resolve?.isNone with
      | some p => .error (.unknownDelegatedPermission p.resourceType p.action)
      | none => .ok (none, names)

def create (id : DelegationId) (draft : Draft) (now : Instant) : Outcome Delegation := do
  if draft.delegator = draft.delegatee then throw .selfDelegation
  if draft.endsAt ≤ draft.startsAt then throw .delegationWindow
  let (role, permissions) ← draft.share.check draft.delegatorPriority
  return {
    id
    organization := draft.organization
    delegator := draft.delegator
    delegatee := draft.delegatee
    role
    permissions
    startsAt := draft.startsAt
    endsAt := draft.endsAt
    active := true
    revokedAt := none
    reason := Text.shown? draft.reason
    createdAt := now }

def status (d : Delegation) (now : Instant) : Status :=
  if !d.active then .revoked
  else if d.endsAt ≤ now then .expired
  else if now < d.startsAt then .scheduled
  else .active

def isActiveAt (d : Delegation) (now : Instant) : Bool := d.status now = .active

def revoke (d : Delegation) (now : Instant) : Outcome Delegation :=
  match d.status now with
  | .revoked => .error (.delegationRevoked d.id)
  | .expired => .error (.delegationExpired d.id)
  | .scheduled | .active => .ok { d with active := false, revokedAt := some now }

/-- Move the end of a span that is not over to a later time. -/
def extend (d : Delegation) (endsAt now : Instant) : Outcome Delegation :=
  match d.status now with
  | .scheduled | .active =>
    if endsAt ≤ d.endsAt then .error .delegationEndNotLater else .ok { d with endsAt }
  | status => .error (.delegationNotExtendable d.id status.name)

theorem isActiveAt_iff {d : Delegation} {now : Instant} :
    d.isActiveAt now = true ↔ d.active = true ∧ d.startsAt ≤ now ∧ now < d.endsAt := by
  have hstart : d.startsAt ≤ now ↔ ¬now < d.startsAt := Instant.not_lt.symm
  have hend : now < d.endsAt ↔ ¬d.endsAt ≤ now := Instant.not_le.symm
  rw [isActiveAt, decide_eq_true_eq, status, hstart, hend]
  cases d.active with
  | false => simp
  | true => by_cases h₁ : d.endsAt ≤ now <;> by_cases h₂ : now < d.startsAt <;> simp [h₁, h₂]

end Delegation

end AccessControl

import AccessControl.Wire.Record

/-! # Canonical forms

A value can be given in several ways: members may be missing, left to their defaults or put in any
order. Its canonical form is the one in which it is written. -/

namespace AccessControl.Json

def via {α : Type} (decode : Decoder α) (write : α → Json) (j : Json) : Option Json :=
  (decode.ofJson? j).map write

def viaId (kind : Entity) : Json → Option Json := via (Id.decode : Decoder (Id kind)) Id.toJson

/-- The canonical form of a value, for each type that has a name. -/
def canonical : List (String × (Json → Option Json)) := [
  ("organization_id", viaId .organization),
  ("user_id", viaId .user),
  ("role_id", viaId .role),
  ("delegation_id", viaId .delegation),
  ("resource_permission_id", viaId .override),
  ("audit_log_entry_id", viaId .auditEntry),
  ("non_empty", via .text .string),
  ("timestamp", via Instant.decode Instant.toJson),
  ("action", via Action.decode Action.toJson),
  ("resource_type", via (ResourceType.decode .atOnce) ResourceType.toJson),
  ("owner_field", via (OwnerField.decode .atOnce) OwnerField.toJson),
  ("legacy_role", via (LegacyRole.decode .atOnce) LegacyRole.toJson),
  ("role_key", via RoleKey.decode RoleKey.toJson),
  ("role_priority", via RolePriority.decode RolePriority.toJson),
  ("hour_window", via HourWindow.decode HourWindow.toJson),
  ("grant_conditions", via GrantConditions.decode GrantConditions.toJson),
  ("grant_scope", via GrantScope.decode GrantScope.toJson),
  ("role_grant", via RoleGrant.decode RoleGrant.toJson),
  ("role", via Role.decode Role.toJson),
  ("membership_role", via MemberRole.decode MemberRole.toJson),
  ("membership", via Member.decode Member.toJson),
  ("permission", via Permission.decode Permission.toJson),
  ("stored_permission", via StoredPermission.decode StoredPermission.toJson),
  ("instance", via (Resource.decode .atOnce) Resource.toJson),
  ("target", via Target.decode Target.toJson),
  ("effect", via Effect.decode Effect.toJson),
  ("rule_source", via RuleSource.decode RuleSource.toJson),
  ("rule_subject", via RuleSubject.decode RuleSubject.toJson),
  ("rule_condition", via RuleCondition.decode RuleCondition.toJson),
  ("rule", via Rule.decode Rule.toJson),
  ("rule_set", via RuleSet.decode RuleSet.toJson),
  ("explanation", via Explanation.decode Explanation.toJson),
  ("delegation", via Delegation.decode Delegation.toJson),
  ("resource_permission", via Override.decode Override.toJson),
  ("delegated_access", via DelegatedAccess.decode DelegatedAccess.toJson),
  ("grant_sources", via GrantSources.decode GrantSources.toJson),
  ("audit_action", via AuditAction.decode fun a => .string a.tag),
  ("audit_entry", via AuditEntry.decode AuditEntry.toJson),
  ("audit_window", via AuditWindow.decode AuditWindow.toJson),
  ("request_context", via RequestContext.decode RequestContext.toJson),
  ("actor_identity", via Actor.decode Actor.toJson)]

end AccessControl.Json

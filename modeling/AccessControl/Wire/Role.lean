import AccessControl.Json.Record
import AccessControl.Member
import AccessControl.Wire.Basic

/-! # Permissions, roles and memberships in JSON -/

namespace AccessControl

open AccessControl.Json.Fields

def Action.toJson (a : Action) : Json := .string a.name

def Action.decode : Json.Decoder Action := .choice (all.map fun a => (a.name, a)) .atOnce

def ResourceType.toJson (t : ResourceType) : Json := .string t.name

def ResourceType.decode : Json.Manner → Json.Decoder ResourceType :=
  .choice (all.map fun t => (t.name, t))

def OwnerField.toJson (f : OwnerField) : Json := .string f.name

def OwnerField.decode : Json.Manner → Json.Decoder OwnerField :=
  .choice (all.map fun f => (f.name, f))

namespace Permission

def toJson (p : Permission) : Json :=
  .object [("resource_type", p.resourceType.toJson), ("action", p.action.toJson)]

def decode : Json.Decoder Permission :=
  .record (Permission.mk
    <$> required "resource_type" (ResourceType.decode .atOnce)
    <*> required "action" Action.decode)

end Permission

namespace StoredPermission

def toJson (p : StoredPermission) : Json :=
  .object [("resource_type", .string p.resourceType), ("action", .string p.action)]

def decode : Json.Decoder StoredPermission :=
  .record (StoredPermission.mk
    <$> required "resource_type" .text
    <*> required "action" .text)

end StoredPermission

namespace RoleKey

def toJson (key : RoleKey) : Json := .string key.text

def decode : Json.Decoder RoleKey := .textOf fun s => (parse s).toOption

end RoleKey

namespace RolePriority

def toJson (p : RolePriority) : Json := .integer p.value

def decode : Json.Decoder RolePriority := fun o => do
  match parse (← Json.Decoder.int64 o) with
  | .ok p => .ok p
  | .error _ => .error .unfit

end RolePriority

namespace HourWindow

def toJson (w : HourWindow) : Json :=
  .object [("start_hour", .ofNat w.start.toNat), ("end_hour", .ofNat w.stop.toNat)]

def decode : Json.Decoder HourWindow :=
  .record (HourWindow.mk
    <$> required "start_hour" .byte
    <*> required "end_hour" .byte)

end HourWindow

namespace GrantConditions

def toJson (c : GrantConditions) : Json :=
  .object [
    ("own_only", .bool c.ownOnly),
    ("team_only", .bool c.teamOnly),
    ("time_restricted", .bool c.timeRestricted),
    ("allowed_hours", .ofOption HourWindow.toJson c.hours)]

def decode : Json.Decoder GrantConditions :=
  .record (GrantConditions.mk
    <$> withDefault "own_only" false .boolean
    <*> withDefault "team_only" false .boolean
    <*> withDefault "time_restricted" false .boolean
    <*> withDefault "allowed_hours" none (.nullOr HourWindow.decode))

end GrantConditions

namespace GrantScope

def toJson (s : GrantScope) : Json :=
  .object [("service_ids", .ofOption Json.ofTexts s.services)]

def decode : Json.Decoder GrantScope :=
  .record (GrantScope.mk
    <$> withDefault "service_ids" none (.nullOr (.list .text)))

end GrantScope

namespace RoleGrant

def toJson (g : RoleGrant) : Json :=
  .object [
    ("permission", g.permission.toJson),
    ("conditions", g.conditions.toJson),
    ("scope", g.scope.toJson)]

def decode : Json.Decoder RoleGrant :=
  .record (RoleGrant.mk
    <$> required "permission" StoredPermission.decode
    <*> withDefault "conditions" {} GrantConditions.decode
    <*> withDefault "scope" {} GrantScope.decode)

end RoleGrant

namespace Role

def toJson (role : Role) : Json :=
  .object [
    ("id", role.id.toJson),
    ("organization_id", role.organization.toJson),
    ("key", role.key.toJson),
    ("name", .string role.name),
    ("priority", role.priority.toJson),
    ("is_system", .bool role.isSystem),
    ("is_editable", .bool role.isEditable),
    ("grants", .ofList RoleGrant.toJson role.grants)]

def decode : Json.Decoder Role :=
  .record (Role.mk
    <$> required "id" Id.decode
    <*> required "organization_id" Id.decode
    <*> required "key" RoleKey.decode
    <*> required "name" .text
    <*> required "priority" RolePriority.decode
    <*> required "is_system" .boolean
    <*> required "is_editable" .boolean
    <*> required "grants" (.list RoleGrant.decode))

end Role

def LegacyRole.toJson (r : LegacyRole) : Json := .string r.name

def LegacyRole.decode : Json.Manner → Json.Decoder LegacyRole :=
  .choice (all.map fun r => (r.name, r))

namespace MemberRole

def toJson : MemberRole → Json
  | legacy r => .object [("kind", .string "legacy"), ("value", r.toJson)]
  | dynamic id => .object [("kind", .string "dynamic"), ("value", id.toJson)]

def decode : Json.Decoder MemberRole :=
  .record (.held "kind" "value" [
    ("legacy", .one LegacyRole.decode legacy),
    ("dynamic", .one (fun _ => Id.decode) dynamic)])

end MemberRole

namespace Member

def toJson (m : Member) : Json :=
  .object [
    ("user_id", m.user.toJson),
    ("organization_id", m.organization.toJson),
    ("active", .bool m.active),
    ("role", m.role.toJson)]

def decode : Json.Decoder Member :=
  .record (Member.mk
    <$> required "user_id" Id.decode
    <*> required "organization_id" Id.decode
    <*> required "active" .boolean
    <*> required "role" MemberRole.decode)

end Member

namespace RequestContext

def toJson (c : RequestContext) : Json :=
  .object [
    ("ip_address", .ofOption .string c.ipAddress),
    ("user_agent", .ofOption .string c.userAgent)]

def decode : Json.Decoder RequestContext :=
  .record (RequestContext.mk
    <$> nullable "ip_address" .text
    <*> nullable "user_agent" .text)

end RequestContext

namespace Actor

def toJson (a : Actor) : Json :=
  .object [
    ("user_id", a.user.toJson),
    ("organization_id", a.organization.toJson),
    ("context", a.context.toJson)]

def decode : Json.Decoder Actor :=
  .record (Actor.mk
    <$> required "user_id" Id.decode
    <*> required "organization_id" Id.decode
    <*> withDefault "context" {} RequestContext.decode)

end Actor

end AccessControl

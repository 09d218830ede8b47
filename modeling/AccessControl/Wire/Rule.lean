import AccessControl.Rule
import AccessControl.Wire.Role

/-! # Resources, targets and rules in JSON -/

namespace AccessControl

open AccessControl.Json.Fields

namespace Owners

/-- Only the owners that there are, in the order of their attributes. -/
def toJson (o : Owners) : Json :=
  .object (OwnerField.all.filterMap fun f => (o.get f).map fun id => (f.name, id.toJson))

/-- Of an owner that is given twice the later one counts. -/
def decodeMembers : Owners → List (Option String × Json.Outline) → Json.Decoded Owners
  | o, [] => .ok o
  | _, (none, _) :: _ => .error .malformed
  | o, (some name, own) :: rest => do
    match OwnerField.ofName? name with
    | none => .error .unfit
    | some field => decodeMembers (o.set field (← Id.decode own)) rest

def decode : Json.Decoder Owners
  | .object members complete => do Json.completed complete (← decodeMembers {} members)
  | o => .error o.flaw

end Owners

namespace Resource

def toMembers (r : Resource) : List (String × Json) :=
  [
    ("resource_type", r.resourceType.toJson),
    ("resource_id", .string r.id),
    ("organization_id", r.organization.toJson),
    ("owners", r.owners.toJson),
    ("team_id", .ofOption .string r.team),
    ("service_id", .ofOption .string r.service),
    ("role_key", .ofOption .string r.roleKey),
    ("active", .bool r.active)]

def toJson (r : Resource) : Json := .object r.toMembers

def decode (manner : Json.Manner) : Json.Decoder Resource :=
  .record (Resource.mk
    <$> required "resource_type" (ResourceType.decode manner)
    <*> required "resource_id" .text
    <*> required "organization_id" Id.decode
    <*> required "owners" Owners.decode
    <*> nullable "team_id" .text
    <*> nullable "service_id" .text
    <*> nullable "role_key" .text
    <*> required "active" .boolean)

end Resource

namespace Target

def toJson : Target → Json
  | ofType t => .object [("kind", .string "class"), ("resource_type", t.toJson)]
  | resource r => .object (("kind", .string "instance") :: r.toMembers)

def decode : Json.Decoder Target :=
  .variant [
    ("class", .record (ofType <$> required "resource_type" (ResourceType.decode .afterwards))),
    ("instance", fun o => resource <$> Resource.decode .afterwards o)]

end Target

def Effect.toJson (e : Effect) : Json := .string e.name

def Effect.decode : Json.Decoder Effect := .choice (all.map fun e => (e.name, e)) .atOnce

def RuleSource.toJson (s : RuleSource) : Json := .string s.name

def RuleSource.decode : Json.Decoder RuleSource := .choice (all.map fun s => (s.name, s)) .atOnce

def TextSet.toJson (s : TextSet) : Json := .ofTexts s.toList

def TextSet.decode : Json.Decoder TextSet := fun o => ofList <$> Json.Decoder.list .text o

namespace RuleSubject

def toJson : RuleSubject → Json
  | all => .object [("kind", .string "all")]
  | only t => .object [("kind", .string "resource"), ("resource_type", t.toJson)]

def decode : Json.Decoder RuleSubject :=
  .record (.held "kind" "resource_type" [
    ("all", .none all),
    ("resource", .one ResourceType.decode only)])

end RuleSubject

namespace RuleCondition

def toJson : RuleCondition → Json
  | ownedBy fields user => .object [
      ("kind", .string "owned_by"),
      ("fields", .ofList OwnerField.toJson fields),
      ("user_id", user.toJson)]
  | inTeams teams => .object [("kind", .string "in_team_set"), ("team_ids", teams.toJson)]
  | inServices services =>
    .object [("kind", .string "in_scope_list"), ("service_ids", services.toJson)]
  | isResource id => .object [("kind", .string "instance_is"), ("resource_id", .string id)]
  | inOrganization organization =>
    .object [("kind", .string "in_organization"), ("organization_id", organization.toJson)]
  | activeOrganization => .object [("kind", .string "organization_active")]
  | holdsRole key => .object [("kind", .string "target_role_key"), ("role_key", .string key)]

def decode : Json.Decoder RuleCondition :=
  .variant [
    ("owned_by", .record (ownedBy
      <$> required "fields" (.list (OwnerField.decode .afterwards))
      <*> required "user_id" Id.decode)),
    ("in_team_set", .record (inTeams <$> required "team_ids" TextSet.decode)),
    ("in_scope_list", .record (inServices <$> required "service_ids" TextSet.decode)),
    ("instance_is", .record (isResource <$> required "resource_id" .text)),
    ("in_organization", .record (inOrganization <$> required "organization_id" Id.decode)),
    ("organization_active", .record (pure activeOrganization)),
    ("target_role_key", .record (holdsRole <$> required "role_key" .text))]

end RuleCondition

namespace Rule

def toJson (rule : Rule) : Json :=
  .object [
    ("effect", rule.effect.toJson),
    ("action", rule.action.toJson),
    ("subject", rule.subject.toJson),
    ("conditions", .ofList RuleCondition.toJson rule.conditions),
    ("source", rule.source.toJson)]

def decode : Json.Decoder Rule :=
  .record (Rule.mk
    <$> required "effect" Effect.decode
    <*> required "action" Action.decode
    <*> required "subject" RuleSubject.decode
    <*> withDefault "conditions" [] (.list RuleCondition.decode)
    <*> required "source" RuleSource.decode)

end Rule

namespace RuleSet

def toJson (s : RuleSet) : Json :=
  .object [
    ("organization_id", s.organization.toJson),
    ("rules", .ofList Rule.toJson s.rules)]

def decode : Json.Decoder RuleSet :=
  .record (RuleSet.mk
    <$> required "organization_id" Id.decode
    <*> required "rules" (.list Rule.decode))

end RuleSet

namespace Explanation

def toJson (e : Explanation) : Json :=
  .object [
    ("permitted", .bool e.permitted),
    ("matching_rule_source", .ofOption RuleSource.toJson e.source)]

def decode : Json.Decoder Explanation :=
  .record (Explanation.mk
    <$> required "permitted" .boolean
    <*> nullable "matching_rule_source" RuleSource.decode)

end Explanation

end AccessControl

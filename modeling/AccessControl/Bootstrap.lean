import AccessControl.Call

/-! # The first roles of an organization -/

namespace AccessControl.Bootstrap

open Service

/-- The role of a template, made anew where no role has its key. -/
def ensureRole (organization : OrganizationId) (r : LegacyRole) : Service (Option Role) := do
  match ← ask (.findRoleByKey organization r.key) with
  | some _ => return none
  | none =>
    let id ← ask (.newId .role)
    let role := r.toRole id organization
    ask (.createRole role)
    return some role

/-- The roles made anew, in the order of the templates. -/
def ensureRoles (organization : OrganizationId) : List LegacyRole → Service (List Role)
  | [] => pure []
  | r :: rest => do
    let created ← ensureRole organization r
    let others ← ensureRoles organization rest
    return created.toList ++ others

/-- See to it that an organization has a role for every template, and tell which ones were
missing. -/
def ensureDefaultRoles (organization : OrganizationId) : Service (List Role) :=
  ensureRoles organization LegacyRole.all

end AccessControl.Bootstrap

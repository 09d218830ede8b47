import AccessControl.Http.Message

/-! # Routes

Every path but one belongs to an organization. Parameters stay as they are sent, and one at the end
of a path is not empty. A fixed name goes before a parameter in its place. -/

namespace AccessControl.Http

inductive Endpoint where
  | authorize
  | explain
  | capabilities
  | listRoles
  | createRole
  | bootstrapRoles
  | updateRole (role : List Char)
  | deleteRole (role : List Char)
  | duplicateRole (role : List Char)
  | addPermission (role : List Char)
  | removePermission (role permission : List Char)
  | assignRole (user : List Char)
  | listDelegations
  | createDelegation
  | revokeDelegation (delegation : List Char)
  | extendDelegation (delegation : List Char)
  | listOverrides
  | grantOverride
  | revokeOverride (override : List Char)
  | extendOverride (override : List Char)
  | listEntries
  | auditSummary
  | exportEntries
  | purgeEntries
deriving DecidableEq, Repr

/-- Where a request goes. -/
inductive Route where
  | health
  | organization (id : List Char) (endpoint : Endpoint)
deriving DecidableEq, Repr

namespace Endpoint

/-- The endpoints behind a path of an organization, by method. -/
def ofPath : List (List Char) → List (String × Endpoint)
  | [p] =>
    match String.ofList p with
    | "authorize" => [("POST", authorize)]
    | "explain" => [("POST", explain)]
    | "capabilities" => [("GET", capabilities)]
    | "roles" => [("GET", listRoles), ("POST", createRole)]
    | "delegations" => [("GET", listDelegations), ("POST", createDelegation)]
    | "resource-permissions" => [("GET", listOverrides), ("POST", grantOverride)]
    | "audit-log" => [("GET", listEntries)]
    | _ => []
  | [p, q] =>
    match String.ofList p, String.ofList q with
    | "roles", "bootstrap" => [("POST", bootstrapRoles)]
    | "roles", _ => [("PUT", updateRole q), ("DELETE", deleteRole q)]
    | "audit-log", "summary" => [("GET", auditSummary)]
    | "audit-log", "export" => [("GET", exportEntries)]
    | "audit-log", "purge" => [("POST", purgeEntries)]
    | _, _ => []
  | [p, q, r] =>
    match String.ofList p, String.ofList r with
    | "roles", "duplicate" => [("POST", duplicateRole q)]
    | "roles", "permissions" => [("POST", addPermission q)]
    | "memberships", "role" => [("PUT", assignRole q)]
    | "delegations", "revoke" => [("POST", revokeDelegation q)]
    | "delegations", "extend" => [("POST", extendDelegation q)]
    | "resource-permissions", "revoke" => [("POST", revokeOverride q)]
    | "resource-permissions", "extend" => [("POST", extendOverride q)]
    | _, _ => []
  | [p, q, r, s] =>
    match String.ofList p, String.ofList r with
    | "roles", "permissions" => [("DELETE", removePermission q s)]
    | _, _ => []
  | _ => []

end Endpoint

/-- A path that is known, for whatever methods. -/
inductive Place where
  | health
  | organization (id : List Char) (endpoints : List (String × Endpoint))

namespace Place

def ofPath? (path : List Char) : Option Place :=
  match Text.splitAll '/' path with
  | [[], p] => if String.ofList p = "health" then some health else none
  | [] :: api :: organizations :: id :: rest =>
    let endpoints := Endpoint.ofPath rest
    if String.ofList api = "api" ∧ String.ofList organizations = "organizations"
        ∧ rest.getLast? ≠ some [] ∧ ¬endpoints.isEmpty then
      some (organization id endpoints)
    else none
  | _ => none

/-- What is read can also be asked about without being sent. -/
def methodServedBy (method : String) : String := if method = "HEAD" then "GET" else method

def route? (method : String) : Place → Option Route
  | health => if methodServedBy method = "GET" then some .health else none
  | organization id endpoints =>
    (endpoints.lookup (methodServedBy method)).map (.organization id)

end Place

end AccessControl.Http

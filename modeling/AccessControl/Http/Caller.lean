import AccessControl.Http.Message
import AccessControl.Member

/-! # Who sends a request -/

namespace AccessControl.Http

/-- A user, or nobody in particular. -/
structure Caller where
  user : Option UserId := none
  context : RequestContext := {}
deriving DecidableEq, Repr

namespace Caller

/-- A header that says something, without the blanks around it. -/
def shownHeader? (r : Request) (name : String) : Option String :=
  ((r.header? name).map Text.trim).filter fun v => !v.isEmpty

def userOf (r : Request) : Outcome (Option UserId) :=
  match shownHeader? r "x-actor-id" with
  | none => .ok none
  | some v =>
    match (Id.parse v : Outcome UserId) with
    | .ok user => .ok (some user)
    | .error _ => .error .badActorHeader

/-- The first of the addresses that a request came by. -/
def addressOf (r : Request) : Option String :=
  (shownHeader? r "x-forwarded-for").map fun v =>
    Text.trim (String.ofList (v.toList.takeWhile (· ≠ ',')))

def ofRequest (r : Request) : Outcome Caller := do
  let user ← userOf r
  return { user, context := .ofTexts (addressOf r) (shownHeader? r "user-agent") }

/-- Administration is for users only. -/
def actor (c : Caller) (organization : OrganizationId) : Outcome Actor :=
  match c.user with
  | none => .error .anonymous
  | some user => .ok { user, organization, context := c.context }

end Caller

end AccessControl.Http

import AccessControl.Template

/-! # Members and actors -/

namespace AccessControl

/-- The role of a member: a fixed one, or a role of the organization. -/
inductive MemberRole where
  | legacy (role : LegacyRole)
  | dynamic (id : RoleId)
deriving DecidableEq, Repr

def MemberRole.roleId? : MemberRole → Option RoleId
  | legacy _ => none
  | dynamic id => some id

/-- A user's place in an organization. -/
structure Member where
  user : UserId
  organization : OrganizationId
  active : Bool
  role : MemberRole
deriving DecidableEq, Repr

def Member.isActiveFor (m : Member) (user : UserId) (organization : OrganizationId) :
    Bool :=
  m.active && m.user = user && m.organization = organization

/-- Where a request comes from, as far as that is known. -/
structure RequestContext where
  ipAddress : Option String := none
  userAgent : Option String := none
deriving DecidableEq, Repr

def RequestContext.ofTexts (ipAddress userAgent : Option String) : RequestContext :=
  ⟨Text.shown? ipAddress, Text.shown? userAgent⟩

/-- A user who acts in an organization. -/
structure Actor where
  user : UserId
  organization : OrganizationId
  context : RequestContext := {}
deriving DecidableEq, Repr

end AccessControl

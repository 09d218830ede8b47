import AccessControl.Permission

/-! # Resources and targets of a check -/

namespace AccessControl

/-- The owners of a resource, by the attribute that names them. -/
structure Owners where
  assignee : Option UserId := none
  creator : Option UserId := none
  user : Option UserId := none
  owner : Option UserId := none
deriving DecidableEq, Repr

namespace Owners

def get (o : Owners) : OwnerField → Option UserId
  | .assignee => o.assignee
  | .creator => o.creator
  | .user => o.user
  | .owner => o.owner

def set (o : Owners) (field : OwnerField) (id : UserId) : Owners :=
  match field with
  | .assignee => { o with assignee := some id }
  | .creator => { o with creator := some id }
  | .user => { o with user := some id }
  | .owner => { o with owner := some id }

@[simp] theorem get_set_self (o : Owners) (f : OwnerField) (id : UserId) :
    (o.set f id).get f = some id := by
  cases f <;> rfl

theorem get_set_of_ne {f g : OwnerField} (h : g ≠ f) (o : Owners) (id : UserId) :
    (o.set f id).get g = o.get g := by
  cases f <;> cases g <;> simp_all [get, set]

end Owners

/-- One resource with the attributes that conditions look at. -/
structure Resource where
  resourceType : ResourceType
  id : String
  organization : OrganizationId
  owners : Owners := {}
  team : Option String := none
  service : Option String := none
  roleKey : Option String := none
  active : Bool := true
deriving DecidableEq, Repr

namespace Resource

/-- The organization itself as a resource. -/
def ofOrganization (organization : OrganizationId) (active : Bool) : Resource :=
  { resourceType := .organization, id := organization.toString, organization, active }

/-- The membership of a user, who owns it, with the key of the role that it holds. -/
def ofMembership (organization : OrganizationId) (user : UserId) (roleKey : String) : Resource :=
  { resourceType := .membership, id := user.toString, organization,
    owners := { user := some user }, roleKey := some roleKey }

/-- The service that a resource belongs to; a service belongs to itself. -/
def serviceScope (r : Resource) : Option String :=
  r.service.or (if r.resourceType = .service then some r.id else none)

end Resource

/-- What a check is about: the whole of a type, or one resource. -/
inductive Target where
  | ofType (resourceType : ResourceType)
  | resource (resource : Resource)
deriving DecidableEq, Repr

namespace Target

def resourceType : Target → ResourceType
  | ofType t => t
  | resource r => r.resourceType

def resource? : Target → Option Resource
  | ofType _ => none
  | resource r => some r

@[simp] theorem resourceType_ofType (t : ResourceType) : (ofType t).resourceType = t := rfl
@[simp] theorem resourceType_resource (r : Resource) :
    (resource r).resourceType = r.resourceType := rfl
@[simp] theorem resource?_ofType (t : ResourceType) : (ofType t).resource? = none := rfl
@[simp] theorem resource?_resource (r : Resource) : (resource r).resource? = some r := rfl

end Target

end AccessControl

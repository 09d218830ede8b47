import AccessControl.Action

/-! # Resource types

Permissions name resource types by their storage name or by their class-style name, and in no
other way. -/

namespace AccessControl

inductive ResourceType where
  | organization
  | membership
  | role
  | project
  | sprint
  | task
  | pomodoroSession
  | comment
  | dashboard
  | notification
  | service
  | auditLog
deriving DecidableEq, Repr

/-- The attributes of a resource that can name an owner. -/
inductive OwnerField where
  | assignee
  | creator
  | user
  | owner
deriving DecidableEq, Repr

namespace OwnerField

def all : List OwnerField := [assignee, creator, user, owner]

def name : OwnerField → String
  | assignee => "assignee_id"
  | creator => "created_by_id"
  | user => "user_id"
  | owner => "owner_id"

def ofName? (s : String) : Option OwnerField := all.find? fun f => f.name = s

@[simp] theorem ofName?_name (f : OwnerField) : ofName? f.name = some f := by cases f <;> decide

end OwnerField

namespace ResourceType

def all : List ResourceType :=
  [organization, membership, role, project, sprint, task, pomodoroSession, comment, dashboard,
    notification, service, auditLog]

/-- The storage name. -/
def name : ResourceType → String
  | organization => "organization"
  | membership => "membership"
  | role => "role"
  | project => "project"
  | sprint => "sprint"
  | task => "task"
  | pomodoroSession => "pomodoro_session"
  | comment => "comment"
  | dashboard => "dashboard"
  | notification => "notification"
  | service => "service"
  | auditLog => "audit_log"

def className : ResourceType → String
  | organization => "Organization"
  | membership => "Membership"
  | role => "Role"
  | project => "Project"
  | sprint => "Sprint"
  | task => "Task"
  | pomodoroSession => "PomodoroSession"
  | comment => "Comment"
  | dashboard => "Dashboard"
  | notification => "Notification"
  | service => "Service"
  | auditLog => "AuditLog"

instance : ToString ResourceType := ⟨name⟩

/-- By the storage name alone. -/
def ofStorageName? (s : String) : Option ResourceType := all.find? fun t => t.name = s

def ofName? (s : String) : Option ResourceType :=
  all.find? fun t => t.name = s || t.className = s

def parse (s : String) : Outcome ResourceType :=
  match ofName? s with
  | some t => .ok t
  | none => .error (.unknownResourceType s)

/-- The actions of every type come first. -/
def actions (t : ResourceType) : List Action :=
  [.read, .create, .update, .destroy, .manage] ++
    match t with
    | membership => [.changeRole, .toggleActive, .invite]
    | task => [.assign]
    | auditLog => [.exportData]
    | _ => []

def ownerFields : ResourceType → List OwnerField
  | task => [.assignee, .creator]
  | project | sprint => [.owner, .creator]
  | pomodoroSession | comment | dashboard | notification | membership => [.user]
  | organization | role | service | auditLog => [.creator]

theorem mem_all (t : ResourceType) : t ∈ all := by cases t <;> decide

@[simp] theorem ofName?_name (t : ResourceType) : ofName? t.name = some t := by
  cases t <;> decide

@[simp] theorem ofName?_className (t : ResourceType) : ofName? t.className = some t := by
  cases t <;> decide

theorem eq_name_of_ofName? {s : String} {t : ResourceType} (h : ofName? s = some t) :
    s = t.name ∨ s = t.className := by
  have := List.find?_some h
  simp only [Bool.or_eq_true, decide_eq_true_eq] at this
  exact this.imp Eq.symm Eq.symm

end ResourceType

end AccessControl

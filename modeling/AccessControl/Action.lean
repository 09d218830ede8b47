import AccessControl.Fault

/-! # Actions -/

namespace AccessControl

inductive Action where
  | read
  | create
  | update
  | destroy
  /-- Stands for every action. -/
  | manage
  | changeRole
  | toggleActive
  | invite
  | assign
  | exportData
deriving DecidableEq, Repr

namespace Action

def all : List Action :=
  [read, create, update, destroy, manage, changeRole, toggleActive, invite, assign, exportData]

def name : Action → String
  | read => "read"
  | create => "create"
  | update => "update"
  | destroy => "destroy"
  | manage => "manage"
  | changeRole => "change_role"
  | toggleActive => "toggle_active"
  | invite => "invite"
  | assign => "assign"
  | exportData => "export"

instance : ToString Action := ⟨name⟩

def ofName? (s : String) : Option Action := all.find? fun a => a.name = s

/-- A rule on the first action applies where the second is asked for. -/
def covers (a requested : Action) : Bool := a = manage || a = requested

def parse (s : String) : Outcome Action :=
  match ofName? s with
  | some a => .ok a
  | none => .error (.unknownAction s)

@[simp] theorem ofName?_name (a : Action) : ofName? a.name = some a := by cases a <;> decide

theorem eq_name_of_ofName? {s : String} {a : Action} (h : ofName? s = some a) : s = a.name := by
  have := List.find?_some h
  simp only [decide_eq_true_eq] at this
  exact this.symm

@[simp] theorem covers_self (a : Action) : a.covers a = true := by simp [covers]

@[simp] theorem manage_covers (a : Action) : manage.covers a = true := by simp [covers]

end Action

end AccessControl

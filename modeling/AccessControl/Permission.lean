import AccessControl.ResourceType
import AccessControl.Text.Split

/-! # Permissions -/

namespace AccessControl

/-- An action on a type of resources. -/
structure Permission where
  resourceType : ResourceType
  action : Action
deriving DecidableEq, Repr

/-- The two names of a permission as they are kept, whether they are known or not. -/
structure StoredPermission where
  resourceType : String
  action : String
deriving DecidableEq, Repr

namespace StoredPermission

/-- The permission that the names stand for, in or outside the catalog. -/
def resolve? (p : StoredPermission) : Option Permission := do
  return ⟨← ResourceType.ofName? p.resourceType, ← Action.ofName? p.action⟩

def key (p : StoredPermission) : String := p.resourceType ++ "." ++ p.action

end StoredPermission

namespace Permission

def stored (p : Permission) : StoredPermission := ⟨p.resourceType.name, p.action.name⟩

def key (p : Permission) : String := p.stored.key

instance : ToString Permission := ⟨key⟩

/-- The action is one that the type supports. -/
def isCataloged (p : Permission) : Bool := p.resourceType.actions.contains p.action

/-- Every action that the permission gives. -/
def coveredActions (p : Permission) : List Action :=
  if p.action = .manage then p.resourceType.actions else [p.action]

def catalog : List Permission :=
  ResourceType.all.flatMap fun t => t.actions.map fun a => ⟨t, a⟩

/-- The names before and after the last dot, known or not. -/
def split? (s : String) : Option StoredPermission :=
  (Text.splitLast? '.' s.toList).map fun (t, a) => ⟨String.ofList t, String.ofList a⟩

def parse (s : String) : Outcome Permission :=
  match split? s with
  | none => .error (.permissionForm s)
  | some names => do
    let p : Permission := ⟨← ResourceType.parse names.resourceType, ← Action.parse names.action⟩
    if p.isCataloged then .ok p else .error (.outsideCatalog s)

@[simp] theorem resolve?_stored (p : Permission) : p.stored.resolve? = some p := by
  simp [stored, StoredPermission.resolve?]

theorem mem_catalog {p : Permission} : p ∈ catalog ↔ p.isCataloged = true := by
  simp only [catalog, List.mem_flatMap, List.mem_map, isCataloged, List.contains_iff_mem]
  constructor
  · rintro ⟨t, -, a, ha, rfl⟩
    exact ha
  · intro h
    exact ⟨p.resourceType, ResourceType.mem_all _, p.action, h, rfl⟩

theorem action_mem_coveredActions (p : Permission) : p.action ∈ p.coveredActions := by
  rw [coveredActions]
  split
  · rename_i hmanage
    simp [hmanage, ResourceType.actions]
  · simp

end Permission

end AccessControl

import AccessControl.Proofs.Changes
import AccessControl.Proofs.PermissionTexts
import AccessControl.Proofs.RoleRows
import AccessControl.Proofs.Tables

/-!
# Rows that are deleted

The conditions of a statement are read as the database reads them, which says of every row whether
it is deleted.  A grant is removed from its role by such a statement, which compares the names that
are stored with those of the permission, while in memory the grants that resolve to the permission
are removed.

The two come to the same for a role that has no grant of the permission under the name of a class
(`Store.removeGrantRows_eq_removeGrant_iff`).
-/

namespace AccessControl.Database

/-! ## Conditions -/

namespace Value

def isNull : Value → Bool
  | null => true
  | _ => false

/-- A missing value is equal to nothing.  Documents and lists are not compared. -/
def equals : Value → Value → Bool
  | uuid u, uuid v => u = v
  | text s, text t => s = t
  | integer m, integer n => m = n
  | count m, count n => m = n
  | boolean a, boolean b => a = b
  | timestamp t, timestamp u => t = u
  | _, _ => false

theorem equals_ofId {kind : Entity} {i j : Id kind} : (ofId i).equals (ofId j) = true ↔ i = j := by
  rw [ofId, ofId, equals, decide_eq_true_eq, Id.mk.injEq]

theorem equals_text {s t : String} : (text s).equals (text t) = true ↔ s = t := by
  rw [equals, decide_eq_true_eq]

end Value

def Comparison.holds : Comparison → Value → Value → Bool
  | equal, v, w => v.equals w
  | atLeast, .timestamp t, .timestamp u => u ≤ t
  | below, .timestamp t, .timestamp u => t < u
  | _, _, _ => false

/-- Whether a condition is fulfilled at the present time by a row that has all cells in sight. -/
def Condition.holds (present : Instant) (r : Row) : Condition → Bool
  | equals column v => (r.get? column).any (·.equals v)
  | isAmong column ids => ids.any fun u => (r.get? column).any (·.equals (.uuid u))
  | whenGiven _ tests v =>
    v.isNull || tests.any fun (column, comparison) => (r.get? column).any (comparison.holds · v)
  | isTrue column => (r.get? column).any (·.equals (.boolean true))
  | isNull column => (r.get? column).any (·.isNull)
  | isNotNull column => (r.get? column).any (!·.isNull)
  | joins left right => (r.get? left).any fun v => (r.get? right).any v.equals
  | olderThan column days =>
    match r.get? column, days with
    | some (.timestamp t), .integer n => t < present.subDays n.toNat
    | _, _ => false

/-! ## Deletions -/

/-- The cells of a row under the names that its table gives them. -/
def Row.qualified (table : String) (r : Row) : Row :=
  ⟨r.cells.map fun (column, v) => (table ++ "." ++ column, v)⟩

/-- The rows of the tables. -/
abbrev Tables := String → List Row

/-- Whether a statement deletes a row of its table.  Where another table is joined, one of its rows
has to fulfil the conditions together with the row. -/
def Statement.deletes (present : Instant) (tables : Tables) (r : Row) : Statement → Bool
  | delete table none conditions =>
    conditions.all (·.holds present ⟨r.cells ++ (r.qualified table).cells⟩)
  | delete table (some other) conditions =>
    (tables other).any fun r' => conditions.all
      (·.holds present ⟨r.cells ++ (r.qualified table).cells ++ (r'.qualified other).cells⟩)
  | _ => false

/-- The rows that a statement deletes. -/
def Statement.deleted (present : Instant) (tables : Tables) : Statement → List Row
  | delete table joined conditions =>
    (tables table).filter (deletes present tables · (delete table joined conditions))
  | _ => []

end AccessControl.Database

namespace AccessControl

/-! ## The two names of a permission -/

namespace Permission

/-- The names of the permission with that of the class for the resource type. -/
def underClass (p : Permission) : StoredPermission := ⟨p.resourceType.className, p.action.name⟩

theorem underClass_ne_stored (p : Permission) : p.underClass ≠ p.stored := by
  obtain ⟨t, a⟩ := p
  have hname : t.className ≠ t.name := by cases t <;> decide
  simp [underClass, stored, hname]

theorem resolve?_iff {p : Permission} {names : StoredPermission} :
    names.resolve? = some p ↔ names = p.stored ∨ names = p.underClass := by
  obtain ⟨t, a⟩ := names
  rw [StoredPermission.resolve?_eq_some, or_and_right]
  simp [stored, underClass]

end Permission

/-! ## Roles that lose grants -/

/-- The role without the grants for which `gone` holds. -/
def Role.without (role : Role) (gone : RoleGrant → Bool) : Role :=
  { role with grants := role.grants.filter fun g => !gone g }

namespace Role

variable {role : Role} {gone gone' : RoleGrant → Bool}

@[simp] theorem id_without (role : Role) (gone : RoleGrant → Bool) :
    (role.without gone).id = role.id := rfl

/-- A role keeps its grants if none of them goes. -/
theorem without_eq_self (h : ∀ g ∈ role.grants, gone g = false) : role.without gone = role := by
  have hgrants : role.grants.filter (fun g => !gone g) = role.grants := by
    simpa [List.filter_eq_self] using h
  rw [without, hgrants]

theorem without_inj :
    role.without gone = role.without gone' ↔ ∀ g ∈ role.grants, gone g = gone' g := by
  constructor
  · intro h g hg
    have hgrants : g ∈ (role.without gone).grants ↔ g ∈ (role.without gone').grants := by rw [h]
    simp only [without, List.mem_filter, hg, true_and] at hgrants
    exact Bool.not_inj (Bool.eq_iff_iff.mpr hgrants)
  · intro h
    rw [without, without, List.filter_congr fun g hg => by rw [h g hg]]

end Role

end AccessControl

namespace AccessControl.Store

open Database

variable {s : Store} {role : Role} {organization : OrganizationId} {id : RoleId}

/-- The tables of roles and of their grants. -/
def roleTables (s : Store) : Tables
  | "roles" => s.roles.rows.map roleRow
  | "role_permissions" =>
    s.roles.rows.flatMap fun role => role.grants.map (Roles.ownedGrantRow role.id)
  | _ => []

/-- The statement deletes the grant. -/
def deletesGrant (s : Store) (present : Instant) (statement : Statement) (id : RoleId)
    (g : RoleGrant) : Bool :=
  statement.deletes present s.roleTables (Roles.ownedGrantRow id g)

/-- The statement that removes a grant is about the rows of its names and of a role that has both
identifiers. -/
theorem deletesGrant_deleteGrant_iff {present : Instant} {p : StoredPermission} {owner : RoleId}
    {g : RoleGrant} :
    s.deletesGrant present (Roles.deleteGrant organization id p) owner g = true ↔
      ∃ r ∈ s.roles.rows, owner = r.id ∧ r.organization = organization ∧ r.id = id ∧
        g.permission = p := by
  rw [deletesGrant, Roles.deleteGrant, Statement.deletes, roleTables, List.any_map,
    List.any_eq_true]
  refine exists_congr fun r => and_congr_right fun _ => ?_
  -- The columns of both tables are looked up under their full names.
  let sight : Row := ⟨(Roles.ownedGrantRow owner g).cells ++
    ((Roles.ownedGrantRow owner g).qualified "role_permissions").cells ++
    ((roleRow r).qualified "roles").cells⟩
  have howner : sight.get? "role_permissions.role_id" = some (.ofId owner) := rfl
  have htype : sight.get? "role_permissions.resource_type" =
      some (.text g.permission.resourceType) := rfl
  have haction : sight.get? "role_permissions.action" = some (.text g.permission.action) := rfl
  have hid : sight.get? "roles.id" = some (.ofId r.id) := rfl
  have horganization : sight.get? "roles.organization_id" = some (.ofId r.organization) := rfl
  have hnames : g.permission = p ↔
      g.permission.resourceType = p.resourceType ∧ g.permission.action = p.action := by
    cases p
    cases g.permission
    simp
  rw [hnames]
  change List.all (_ : List Condition) (·.holds present sight) = true ↔ _
  simp [Roles.isJoinedRole, Condition.holds, howner, htype, haction, hid, horganization,
    Value.equals_ofId, Value.equals_text]

/-- The rows are deleted that a role has for the names of the permission, and none of other
roles. -/
theorem deletesGrant_deleteGrant (hfound : s.findRole organization id = some role) {r : Role}
    (hr : r ∈ s.roles.rows) (present : Instant) (p : StoredPermission) (g : RoleGrant) :
    s.deletesGrant present (Roles.deleteGrant organization id p) r.id g = true ↔
      r = role ∧ g.permission = p := by
  obtain ⟨hrole, rfl, rfl⟩ := findRole_eq_some.mp hfound
  rw [deletesGrant_deleteGrant_iff]
  constructor
  · rintro ⟨r', -, hid, -, hsame, hnames⟩
    exact ⟨Table.eq_of_key_eq hr hrole (hid.trans hsame), hnames⟩
  · rintro ⟨rfl, hnames⟩
    exact ⟨r, hr, rfl, rfl, rfl, hnames⟩

/-! ## Grants that are removed -/

/-- The store without the grants for which `gone` holds. -/
def dropGrants (s : Store) (gone : RoleId → RoleGrant → Bool) : Store where
  members := s.members
  roles := {
    rows := s.roles.rows.map fun role => role.without (gone role.id)
    distinct := by simpa [Function.comp_def] using s.roles.distinct }
  seats := s.seats
  delegations := s.delegations
  overrides := s.overrides

/-- What the removal of a grant from the rows comes to.  The database tells how many rows it has
deleted. -/
def removeGrantRows (s : Store) (present : Instant) (organization : OrganizationId) (id : RoleId)
    (p : Permission) : Outcome Store :=
  let statement := Roles.deleteGrant organization id p.stored
  let affected := (statement.deleted present s.roleTables).length
  let script : Script := { replies := [.ok { affected }] }
  match (script.run (Roles.removeGrant organization id p)).1 with
  | .error fault => .error fault
  | .ok () => .ok (s.dropGrants (s.deletesGrant present statement))

/-- The store in which a role has lost the grants for which `gone` holds, if it had any. -/
def removeGrants (s : Store) (role : Role) (missing : Fault) (gone : RoleGrant → Bool) :
    Outcome Store :=
  if role.grants.any gone then .ok (s.putRole (role.without gone)) else .error missing

/-- In memory the grants are removed that resolve to the permission. -/
theorem removeGrant_eq (hfound : s.findRole organization id = some role) (p : Permission) :
    s.removeGrant organization id p = s.removeGrants role (.grantNotStored id p.key)
      fun g => g.permission.resolve? = some p := by
  have hkept : (role.grants.filter fun g => g.permission.resolve? ≠ some p).length =
      role.grants.length ↔ ¬ role.grants.any fun g => g.permission.resolve? = some p := by
    simp [List.length_filter_eq_length_iff]
  rw [removeGrant, hfound, removeGrants]
  dsimp only
  by_cases hany : role.grants.any fun g => g.permission.resolve? = some p
  · rw [if_pos hany, if_neg (fun h => hkept.mp h hany), Role.without]
    simp only [decide_not]
  · rw [if_neg hany, if_pos (hkept.mpr hany)]

/-- Without the rows that are deleted the role has lost the grants of these names. -/
theorem dropGrants_deleteGrant (hfound : s.findRole organization id = some role)
    (present : Instant) (p : StoredPermission) :
    s.dropGrants (s.deletesGrant present (Roles.deleteGrant organization id p)) =
      s.putRole (role.without fun g => g.permission = p) := by
  have hrole : role ∈ s.roles.rows := (findRole_eq_some.mp hfound).1
  have hkey : (role.without fun g => g.permission = p).id ∈ s.roles.rows.map Role.id :=
    List.mem_map.mpr ⟨role, hrole, rfl⟩
  have hroles : (s.dropGrants (s.deletesGrant present
      (Roles.deleteGrant organization id p))).roles =
        s.roles.put (role.without fun g => g.permission = p) := by
    refine Table.ext ?_
    rw [Table.rows_put_of_mem hkey, Table.replaced]
    refine List.map_congr_left fun r hr => ?_
    rw [Role.id_without]
    have hdeletes (g : RoleGrant) := deletesGrant_deleteGrant hfound hr present p g
    by_cases hsame : r.id = role.id
    · obtain rfl : r = role := Table.eq_of_key_eq hr hrole hsame
      rw [if_pos rfl]
      exact Role.without_inj.mpr fun g _ => Bool.eq_iff_iff.mpr (by simpa using hdeletes g)
    · rw [if_neg hsame]
      have hother : r ≠ role := fun h => hsame (h ▸ rfl)
      exact Role.without_eq_self fun g _ => by simpa [hother] using hdeletes g
  rw [putRole, ← hroles]
  rfl

/-- The database deletes a row if the role has a grant of these names. -/
theorem deleted_deleteGrant_eq_nil_iff (hfound : s.findRole organization id = some role)
    (present : Instant) (p : StoredPermission) :
    (Roles.deleteGrant organization id p).deleted present s.roleTables = [] ↔
      ∀ g ∈ role.grants, g.permission ≠ p := by
  have hrole : role ∈ s.roles.rows := (findRole_eq_some.mp hfound).1
  change List.filter _ (s.roles.rows.flatMap fun r => r.grants.map (Roles.ownedGrantRow r.id)) =
    [] ↔ _
  rw [List.filter_eq_nil_iff]
  constructor
  · intro h g hg hp
    refine h (Roles.ownedGrantRow role.id g) ?_ ?_
    · exact List.mem_flatMap.mpr ⟨role, hrole, List.mem_map_of_mem hg⟩
    · exact (deletesGrant_deleteGrant hfound hrole present p g).mpr ⟨rfl, hp⟩
  · intro h row hrow hdeleted
    obtain ⟨r, hr, hmem⟩ := List.mem_flatMap.mp hrow
    obtain ⟨g, hg, rfl⟩ := List.mem_map.mp hmem
    obtain ⟨rfl, hp⟩ := (deletesGrant_deleteGrant hfound hr present p g).mp hdeleted
    exact h g hg hp

/-- From the rows those are removed that have the storage names of the permission. -/
theorem removeGrantRows_eq (hfound : s.findRole organization id = some role) (present : Instant)
    (p : Permission) :
    s.removeGrantRows present organization id p =
      s.removeGrants role (.grantNotStored id p.key) fun g => g.permission = p.stored := by
  have hnone := deleted_deleteGrant_eq_nil_iff hfound present p.stored
  rw [removeGrantRows, Roles.removeGrant, Script.run_change _ rfl, removeGrants]
  by_cases hany : role.grants.any fun g => g.permission = p.stored
  · have hsome : ((Roles.deleteGrant organization id p.stored).deleted present
        s.roleTables).length ≠ 0 := by
      simpa [hnone] using hany
    rw [if_pos hany, if_neg hsome, ← dropGrants_deleteGrant hfound present]
  · have hzero : ((Roles.deleteGrant organization id p.stored).deleted present
        s.roleTables).length = 0 := by
      simpa [hnone] using hany
    rw [if_neg hany, if_pos hzero]

/-- Two removals come to the same only if they remove the same grants. -/
theorem removeGrants_inj (role : Role) (missing : Fault) {gone gone' : RoleGrant → Bool} :
    s.removeGrants role missing gone = s.removeGrants role missing gone' ↔
      ∀ g ∈ role.grants, gone g = gone' g := by
  constructor
  · intro h
    rw [removeGrants, removeGrants] at h
    split at h <;> split at h
    -- If both find something, the role can be looked up in what they leave behind.
    · have hfound := findRole_putRole_self s (role.without gone)
      rw [Except.ok.inj h] at hfound
      have hfound' := findRole_putRole_self s (role.without gone')
      exact Role.without_inj.mp (Option.some.inj (hfound.symm.trans hfound'))
    · cases h
    · cases h
    · rename_i hnone hnone'
      rw [Bool.not_eq_true, List.any_eq_false] at hnone hnone'
      intro g hg
      rw [Bool.eq_false_iff.mpr (hnone g hg), Bool.eq_false_iff.mpr (hnone' g hg)]
  · intro h
    have hany : role.grants.any gone = role.grants.any gone' := by
      rw [Bool.eq_iff_iff, List.any_eq_true, List.any_eq_true]
      exact exists_congr fun g => and_congr_right fun hg => by rw [h g hg]
    rw [removeGrants, removeGrants, hany, Role.without_inj.mpr h]

/-- The removal from the rows is that in memory just when the role has no grant of the permission
under the name of the class. -/
theorem removeGrantRows_eq_removeGrant_iff (hfound : s.findRole organization id = some role)
    (present : Instant) (p : Permission) :
    s.removeGrantRows present organization id p = s.removeGrant organization id p ↔
      ∀ g ∈ role.grants, g.permission ≠ p.underClass := by
  rw [removeGrantRows_eq hfound, removeGrant_eq hfound, removeGrants_inj]
  refine forall₂_congr fun g _ => ?_
  rw [Bool.eq_iff_iff, decide_eq_true_eq, decide_eq_true_eq, Permission.resolve?_iff]
  constructor
  · intro h hclass
    exact p.underClass_ne_stored (hclass.symm.trans (h.mpr (.inr hclass)))
  · intro hclass
    exact ⟨.inl, fun h => h.resolve_right hclass⟩

end AccessControl.Store

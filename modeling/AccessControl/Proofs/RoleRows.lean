import AccessControl.Database.Roles
import AccessControl.Proofs.Sessions
import AccessControl.Proofs.Sources

/-!
# Roles that are put together from rows

The rows of roles come first, and then the rows of all their grants in one list.  Each role takes
the grants that carry its identifier out of the list before the next role is looked at.

As long as no identifier is repeated, nothing is lost on the way: every role has its own grants in
the order of the list, each as often as it is there (`load_distributes_grants`).
-/

namespace AccessControl

/-- What the row of a role holds. -/
def Role.stored (role : Role) : Database.StoredRole where
  id := role.id
  organization := role.organization
  key := role.key.text
  name := role.name
  priority := role.priority.value
  isSystem := role.isSystem
  isEditable := role.isEditable

/-! ## Checks of what a row holds -/

theorem RoleKey.parse_cases (s : String) :
    (fault? s = none ∧ ∃ key, parse s = .ok key ∧ key.text = s) ∨
    (fault? s ≠ none ∧ ∃ fault, parse s = .error fault) := by
  rw [parse]
  split
  · rename_i fault h
    exact .inr ⟨by simp [h], fault, rfl⟩
  · rename_i h
    exact .inl ⟨h, ⟨s, h⟩, rfl, rfl⟩

theorem checkName_cases (s : String) :
    (Text.allBlank s = false ∧ checkName s = .ok s) ∨
    (Text.allBlank s ≠ false ∧ ∃ fault, checkName s = .error fault) := by
  rw [checkName]
  cases Text.allBlank s <;> simp

theorem RolePriority.parse_cases (value : Int) :
    ((0 ≤ value ∧ value ≤ 1000) ∧ ∃ p, parse value = .ok p ∧ (p.value : Int) = value) ∨
    (¬ (0 ≤ value ∧ value ≤ 1000) ∧ ∃ fault, parse value = .error fault) := by
  rw [parse]
  split
  · exact .inr ⟨by omega, _, rfl⟩
  · split
    · exact .inl ⟨by omega, _, rfl, Int.toNat_of_nonneg (by omega)⟩
    · exact .inr ⟨by omega, _, rfl⟩

end AccessControl

namespace AccessControl.Database

/-! ## Rows of roles -/

namespace StoredRole

/-- The key, the name and the priority are those of a role. -/
structure IsValid (r : StoredRole) : Prop where
  key : RoleKey.fault? r.key = none
  name : Text.allBlank r.name = false
  priority : 0 ≤ r.priority ∧ r.priority ≤ 1000

theorem isValid_stored {role : Role} (hname : Text.allBlank role.name = false) :
    role.stored.IsValid where
  key := role.key.valid
  name := hname
  priority := ⟨Int.natCast_nonneg _, Int.ofNat_le.mpr role.priority.le_max⟩

/-- A valid row becomes a role, and any other one is a fault of the database. -/
theorem toRole_cases (r : StoredRole) (grants : List RoleGrant) :
    (r.IsValid ∧ ∃ role, r.toRole grants = .ok role ∧ role.stored = r ∧ role.grants = grants) ∨
    (¬ r.IsValid ∧ ∃ fault, r.toRole grants = .error fault ∧ fault.kind = .internal) := by
  rw [toRole]
  rcases RoleKey.parse_cases r.key with ⟨hkey, key, hparse, hkeytext⟩ | ⟨hkey, fault, hparse⟩
  case inr =>
      rw [hparse]
      exact .inr ⟨fun h => hkey h.key, _, rfl, rfl⟩
  rcases checkName_cases r.name with ⟨hname, hcheck⟩ | ⟨hname, fault, hcheck⟩
  case inr =>
      rw [hparse, hcheck]
      exact .inr ⟨fun h => hname h.name, _, rfl, rfl⟩
  rcases RolePriority.parse_cases r.priority with
    ⟨hbounds, priority, hpriority, hvalue⟩ | ⟨hbounds, fault, hpriority⟩
  case inr =>
      rw [hparse, hcheck, hpriority]
      exact .inr ⟨fun h => hbounds h.priority, _, rfl, rfl⟩
  rw [hparse, hcheck, hpriority]
  exact .inl ⟨⟨hkey, hname, hbounds⟩, _, rfl, by simp [Role.stored, hkeytext, hvalue], rfl⟩

end StoredRole

/-! ## Grants that are dealt out -/

/-- The grants that carry an identifier, in their order. -/
def grantsOf (id : RoleId) (grants : List StoredGrant) : List RoleGrant :=
  (grants.filter (·.role = id)).map (·.grant)

/-- The grants of one role are not among those that another one takes. -/
theorem grantsOf_filter_ne {id other : RoleId} (h : id ≠ other) (grants : List StoredGrant) :
    grantsOf id (grants.filter (·.role ≠ other)) = grantsOf id grants := by
  rw [grantsOf, grantsOf, List.filter_filter]
  congr 1
  refine List.filter_congr fun g _ => ?_
  by_cases hg : g.role = id
  · simp [hg, h]
  · simp [hg]

theorem withGrants_cons (r : StoredRole) (rest : List StoredRole) (grants : List StoredGrant) :
    withGrants (r :: rest) grants = do
      let role ← r.toRole (grantsOf r.id grants)
      return role :: (← withGrants rest (grants.filter (·.role ≠ r.id))) := by
  rw [withGrants, List.partition_eq_filter_filter]
  simp only [grantsOf, Function.comp_def, decide_not]

theorem withGrants_of_isValid {rows : List StoredRole} (hvalid : ∀ r ∈ rows, r.IsValid)
    (hids : (rows.map (·.id)).Nodup) (grants : List StoredGrant) :
    ∃ roles, withGrants rows grants = .ok roles ∧ roles.map Role.stored = rows ∧
      ∀ role ∈ roles, role.grants = grantsOf role.id grants := by
  induction rows generalizing grants with
  | nil => exact ⟨[], rfl, rfl, by simp⟩
  | cons r rest ih =>
      obtain ⟨hr, hrest⟩ := List.forall_mem_cons.mp hvalid
      rw [List.map_cons, List.nodup_cons] at hids
      obtain ⟨hfresh, hids⟩ := hids
      rcases r.toRole_cases (grantsOf r.id grants) with ⟨-, role, hrole, hstored, hown⟩ | ⟨hnot, -⟩
      case inr => exact absurd hr hnot
      obtain ⟨roles, hroles, hrows, hgrants⟩ := ih hrest hids (grants.filter (·.role ≠ r.id))
      refine ⟨role :: roles, ?_, by rw [List.map_cons, hstored, hrows], ?_⟩
      · rw [withGrants_cons, hrole, hroles]
        rfl
      · refine List.forall_mem_cons.mpr ⟨?_, fun other hother => ?_⟩
        · rw [hown, ← hstored]
          rfl
        · rw [hgrants other hother, grantsOf_filter_ne]
          -- The first role has taken no grant of another, as no row repeats its identifier.
          rintro hid
          refine hfresh (List.mem_map.mpr ⟨other.stored, ?_, hid⟩)
          rw [← hrows]
          exact List.mem_map_of_mem hother

theorem withGrants_of_not_isValid {rows : List StoredRole} (h : ∃ r ∈ rows, ¬ r.IsValid)
    (grants : List StoredGrant) :
    ∃ fault, withGrants rows grants = .error fault ∧ fault.kind = .internal := by
  induction rows generalizing grants with
  | nil => simp at h
  | cons r rest ih =>
      rw [withGrants_cons]
      rcases r.toRole_cases (grantsOf r.id grants) with
        ⟨hvalid, role, hrole, -⟩ | ⟨-, fault, hfault, hkind⟩
      · have hrest : ∃ r ∈ rest, ¬ r.IsValid := by simpa [hvalid] using h
        obtain ⟨fault, hfault, hkind⟩ := ih hrest (grants.filter (·.role ≠ r.id))
        exact ⟨fault, by rw [hrole, hfault]; rfl, hkind⟩
      · exact ⟨fault, by rw [hfault]; rfl, hkind⟩

/-! ## Loading -/

namespace Roles

/-- The row of a grant, with the role that it belongs to. -/
def ownedGrantRow (id : RoleId) (g : RoleGrant) : Row :=
  ⟨("role_id", .ofId id) :: (grantRow g).cells⟩

variable {organization : OrganizationId} {id : Option RoleId} {script : Script} {shown : Answer}
  {rows : List StoredRole}

/-- What goes on after the rows of the roles have come. -/
theorem run_load (hreply : script.replies.head? = some (.ok shown))
    (hrows : shown.rows.mapM StoredRole.ofRow? = some rows) (hne : rows ≠ []) :
    script.run (load organization id) =
      (Script.answer (.select (selectRoles organization id)) script).2.run (do
        let grants ← Session.all "load role permissions" StoredGrant.ofRow?
          (selectGrants (rows.map (·.id)))
        .ofOutcome (withGrants rows grants)) := by
  rw [load, Script.run_bind_ok (Script.run_all "load roles" _ hreply hrows)]
  simp [hne]

theorem run_load_nil (hreply : script.replies.head? = some (.ok shown))
    (hrows : shown.rows.mapM StoredRole.ofRow? = some []) :
    script.run (load organization id) =
      (.ok [], (Script.answer (.select (selectRoles organization id)) script).2) := by
  rw [load, Script.run_bind_ok (Script.run_all "load roles" _ hreply hrows)]
  rfl

/-- The roles are asked for, and then all of their grants at once. -/
theorem sent_load (hreply : script.replies.head? = some (.ok shown))
    (hrows : shown.rows.mapM StoredRole.ofRow? = some rows) (hne : rows ≠ []) :
    (script.run (load organization id)).2.sent = script.sent ++
      [.select (selectRoles organization id), .select (selectGrants (rows.map (·.id)))] := by
  rw [run_load hreply hrows hne]
  rcases Script.run_all_cases _ "load role permissions" StoredGrant.ofRow?
    (selectGrants (rows.map (·.id))) with ⟨grants, hall⟩ | ⟨cause, hall⟩
  · rw [Script.run_bind_ok hall]
    simp [Script.run, Program.ofOutcome, Script.answer_select]
  · rw [Script.run_bind_error hall]
    simp [Script.answer_select]

theorem load_of_isValid (script : Script) (organization : OrganizationId) (id : Option RoleId)
    {reply : Answer} {grants : List StoredGrant}
    (hreply : script.replies.head? = some (.ok shown))
    (hrows : shown.rows.mapM StoredRole.ofRow? = some rows) (hids : (rows.map (·.id)).Nodup)
    (hnext : script.replies.tail.head? = some (.ok reply))
    (hgrants : reply.rows.mapM StoredGrant.ofRow? = some grants)
    (hvalid : ∀ r ∈ rows, r.IsValid) :
    ∃ roles, (script.run (load organization id)).1 = .ok roles ∧ roles.map Role.stored = rows ∧
      ∀ role ∈ roles, role.grants = grantsOf role.id grants := by
  by_cases hne : rows = []
  · subst hne
    rw [run_load_nil hreply hrows]
    exact ⟨[], rfl, rfl, by simp⟩
  · have hasked : (Script.answer (.select (selectRoles organization id)) script).2.replies.head? =
        some (.ok reply) := hnext
    rw [run_load hreply hrows hne,
      Script.run_bind_ok (Script.run_all "load role permissions" _ hasked hgrants)]
    exact withGrants_of_isValid hvalid hids grants

theorem load_of_not_isValid (hreply : script.replies.head? = some (.ok shown))
    (hrows : shown.rows.mapM StoredRole.ofRow? = some rows) (h : ∃ r ∈ rows, ¬ r.IsValid) :
    ∃ fault, (script.run (load organization id)).1 = .error fault ∧ fault.kind = .internal := by
  have hne : rows ≠ [] := by
    rintro rfl
    simp at h
  rw [run_load hreply hrows hne]
  rcases Script.run_all_cases _ "load role permissions" StoredGrant.ofRow?
    (selectGrants (rows.map (·.id))) with ⟨grants, hall⟩ | ⟨cause, hall⟩
  · rw [Script.run_bind_ok hall]
    exact withGrants_of_not_isValid h grants
  · rw [Script.run_bind_error hall]
    exact ⟨_, rfl, rfl⟩

/-- From rows of roles that do not share an identifier and rows of grants, both in any order, come
the roles in the order of their rows, each with the grants that carry its identifier in the order
of theirs.  A row that is no role is a fault of the database, and without rows of roles no grants
are asked for. -/
theorem load_distributes_grants (organization : OrganizationId) (id : Option RoleId)
    {replies : List (Except DatabaseFault Answer)}
    (hreplies : script.replies = .ok shown :: replies)
    (hrows : shown.rows.mapM StoredRole.ofRow? = some rows) (hids : (rows.map (·.id)).Nodup) :
    let result := script.run (load organization id)
    (rows = [] → result.1 = .ok [] ∧ result.2.replies = replies ∧
      result.2.sent = script.sent ++ [.select (selectRoles organization id)]) ∧
    (rows ≠ [] → result.2.sent = script.sent ++
      [.select (selectRoles organization id), .select (selectGrants (rows.map (·.id)))]) ∧
    (∀ reply grants, replies.head? = some (.ok reply) →
      reply.rows.mapM StoredGrant.ofRow? = some grants → (∀ r ∈ rows, r.IsValid) →
      ∃ roles, result.1 = .ok roles ∧ roles.map Role.stored = rows ∧
        ∀ role ∈ roles, role.grants = grantsOf role.id grants) ∧
    ((∃ r ∈ rows, ¬ r.IsValid) → ∃ fault, result.1 = .error fault ∧ fault.kind = .internal) := by
  intro result
  have hreply : script.replies.head? = some (.ok shown) := by rw [hreplies]; rfl
  refine ⟨?empty, sent_load hreply hrows, ?valid, load_of_not_isValid hreply hrows⟩
  case empty =>
      rintro rfl
      rw [show result = _ from run_load_nil hreply hrows, Script.answer_select]
      exact ⟨rfl, by rw [hreplies]; rfl, rfl⟩
  case valid =>
      intro reply grants hnext hgrants hvalid
      have htail : script.replies.tail.head? = some (.ok reply) := by rwa [hreplies]
      exact load_of_isValid script organization id hreply hrows hids htail hgrants hvalid

end Roles

end AccessControl.Database

namespace AccessControl

/-! ## Two roles -/

namespace Sample

open Database

def porter : Role where
  id := ⟨⟨11⟩⟩
  organization
  key := ⟨"porter", by decide⟩
  name := "Porter"
  priority := .member
  isSystem := false
  isEditable := true
  grants := [{ permission := ⟨"task", "read"⟩ }, { permission := ⟨"task", "update"⟩ }]

def courier : Role where
  id := ⟨⟨12⟩⟩
  organization
  key := ⟨"courier", by decide⟩
  name := "Courier"
  priority := .viewer
  isSystem := false
  isEditable := true
  grants := [{ permission := ⟨"document", "read"⟩, scope := { services := some ["scans"] } }]

/-- The grants of the porter with one of the courier and one of another role between them. -/
def mixedGrants : List StoredGrant := [
  ⟨porter.id, { permission := ⟨"task", "read"⟩ }⟩,
  ⟨courier.id, { permission := ⟨"document", "read"⟩, scope := { services := some ["scans"] } }⟩,
  ⟨⟨⟨13⟩⟩, { permission := ⟨"role", "delete"⟩ }⟩,
  ⟨porter.id, { permission := ⟨"task", "update"⟩ }⟩]

/-- A database that shows the porter and the courier, and then those grants. -/
def twoRoles : Script where
  replies := [
    .ok { rows := [roleRow porter, roleRow courier] },
    .ok { rows := mixedGrants.map fun g => Roles.ownedGrantRow g.role g.grant }]

end Sample

open Database Sample

/-- The porter and the courier are told apart. -/
theorem mixed_grants_are_dealt_out :
    ∃ roles, (twoRoles.run (Roles.load organization none)).1 = .ok roles ∧
      roles.map Role.stored = [porter.stored, courier.stored] ∧
      ∀ role ∈ roles, role.grants = grantsOf role.id mixedGrants := by
  have hids : ([porter.stored, courier.stored].map (·.id)).Nodup := by decide
  have hvalid : ∀ r ∈ [porter.stored, courier.stored], r.IsValid := by
    simp only [List.mem_cons, List.not_mem_nil, or_false]
    rintro r (rfl | rfl) <;> exact StoredRole.isValid_stored (by decide)
  exact (Roles.load_distributes_grants organization none rfl rfl hids).2.2.1 _ mixedGrants rfl rfl
    hvalid

end AccessControl

import AccessControl.Database.AuditEntries
import AccessControl.Proofs.EncodedForms
import AccessControl.Proofs.RoleRows
import AccessControl.Proofs.Saving

/-!
# Rows that are written and read

An insertion binds a value to each of the columns that it names, and a selection shows the columns
that it names.  Where these are the same columns and none is named twice, the selection shows the
row of the insertion, and a record is read from it as it was written
(`inserted_rows_read_back`).

Instants are the exception: the database keeps microseconds and no leap seconds, so only such
instants come back as they were.
-/

namespace AccessControl

/-- The instant is a whole number of microseconds, none of them in a leap second. -/
def Instant.InMicroseconds (t : Instant) : Prop := t.nano % 1000 = 0 ∧ t.nano < 1000000000

instance (t : Instant) : Decidable t.InMicroseconds :=
  inferInstanceAs (Decidable (t.nano % 1000 = 0 ∧ t.nano < 1000000000))

theorem Instant.ofSecond_second_nano (t : Instant) : ofSecond t.second t.nano = t := by
  obtain ⟨ticks⟩ := t
  simp only [ofSecond, second, nano, ticksPerSecond, Instant.mk.injEq]
  omega

namespace Database

theorem kept_of_inMicroseconds {t : Instant} (h : t.InMicroseconds) : kept t = t := by
  obtain ⟨hwhole, hregular⟩ := h
  obtain ⟨m, hm⟩ := Nat.dvd_of_mod_eq_zero hwhole
  have hmicros : ((t.second - epoch) * 1000000000 + t.nano).tdiv 1000 =
      (t.second - epoch) * 1000000 + m := by
    rw [hm, show (t.second - epoch) * 1000000000 + ((1000 * m : Nat) : Int) =
      1000 * ((t.second - epoch) * 1000000 + m) by omega]
    exact Int.mul_tdiv_cancel_left _ (by decide)
  have hsecond : epoch + ((t.second - epoch) * 1000000 + m) / 1000000 = t.second := by omega
  have hnano : (((t.second - epoch) * 1000000 + m) % 1000000).toNat * 1000 = t.nano := by omega
  rw [kept]
  simp only [hmicros, hsecond, hnano, Instant.ofSecond_second_nano]

/-! ## Columns -/

theorem mapM_eq_some_map {α β : Type} {f : α → Option β} {g : α → β} {as : List α}
    (h : ∀ a ∈ as, f a = some (g a)) : as.mapM f = some (as.map g) := by
  induction as with
  | nil => rfl
  | cons a rest ih =>
      obtain ⟨ha, hrest⟩ := List.forall_mem_cons.mp h
      rw [List.mapM_cons, ha, ih hrest]
      rfl

namespace Row

variable {r : Row} {column : String} {v : Value}

/-- With columns that differ in their names every cell can be found. -/
theorem get?_of_mem (hnodup : r.columns.Nodup) (h : (column, v) ∈ r.cells) :
    r.get? column = some v := by
  -- The last cell of a name counts, so the lookup goes through the cells from behind.
  obtain ⟨before, behind, hcells⟩ := List.append_of_mem (List.mem_reverse.mpr h)
  refine List.lookup_eq_some_iff.mpr ⟨before, behind, hcells, fun c hc => ?_⟩
  have hreverse : (r.cells.reverse.map (·.1)).Nodup := by
    rw [List.map_reverse, List.nodup_reverse]
    exact hnodup
  rw [hcells, List.map_append, List.map_cons, List.nodup_append] at hreverse
  have hne := hreverse.2.2 _ (List.mem_map_of_mem hc) _ (.head _)
  simpa using hne.symm

end Row

/-- The row of an insertion: each column has the value that is bound to the place of its number. -/
def Statement.inserted : Statement → Row
  | insert table row => ⟨row.columns.zip (insert table row).params⟩
  | _ => ⟨[]⟩

/-- The columns of a stored row that a selection shows. -/
def Selection.show? (s : Selection) (r : Row) : Option Row :=
  (s.columns.mapM fun column => (r.get? column).map (column, ·)).map Row.mk

theorem Statement.inserted_insert (table : String) (row : Row) :
    (insert table row).inserted = row := by
  simp [inserted, params, Row.columns, Row.values, List.zip_map']

/-- A selection of the same columns shows the whole row of an insertion. -/
theorem Selection.show?_inserted {s : Selection} {row : Row} (hcolumns : s.columns = row.columns)
    (hnodup : row.columns.Nodup) (table : String) :
    s.show? (Statement.insert table row).inserted = some row := by
  have hcells : row.columns.mapM (fun column => (row.get? column).map (column, ·)) =
      some row.cells := by
    rw [Row.columns, List.mapM_map]
    have hcell : ∀ c ∈ row.cells, (row.get? c.1).map (c.1, ·) = some (id c) := fun c hc => by
      rw [Row.get?_of_mem hnodup hc]
      rfl
    exact (mapM_eq_some_map hcell).trans (congrArg some (List.map_id _))
  rw [Statement.inserted_insert, show?, hcolumns, hcells]
  rfl

/-! ## Records -/

theorem Value.nullable_id? {kind : Entity} (id : Option (Id kind)) :
    nullable id? (ofOption ofId id) = some id := by
  cases id <;> rfl

theorem Value.instant?_ofInstant_of_inMicroseconds {t : Instant} (h : t.InMicroseconds) :
    (ofInstant t).instant? = some t := by
  rw [instant?_ofInstant, kept_of_inMicroseconds h]

theorem Value.nullable_instant?_of_inMicroseconds {t : Option Instant}
    (h : ∀ u, t = some u → u.InMicroseconds) :
    nullable instant? (ofOption ofInstant t) = some t := by
  cases t with
  | none => rfl
  | some u => rw [nullable_instant?, Option.map_some, kept_of_inMicroseconds (h u rfl)]

theorem Value.json?_of_decode {α : Type} {decode : Json.Decoder α} {j : Json} {a : α}
    (h : decode j.outline = .ok a) : (jsonb j).json? decode = some a := by
  rw [json?, Json.Decoder.ofJson?, h]
  rfl

end Database

/-- The roles differ at most in the order of their grants. -/
def Role.EqUpToOrder (r role : Role) : Prop :=
  { r with grants := role.grants } = role ∧ r.grants.Perm role.grants

/-- The times of a delegation. -/
def Delegation.instants (d : Delegation) : List Instant :=
  d.startsAt :: d.endsAt :: d.createdAt :: d.revokedAt.toList

/-- The times of an override. -/
def Override.instants (o : Override) : List Instant :=
  o.createdAt :: o.expiresAt.toList ++ o.revokedAt.toList

namespace Database

theorem Delegations.holds_toRow {d : Delegation} (h : ∀ t ∈ d.instants, t.InMicroseconds) :
    Holds (toRow d) d where
  id := rfl
  organization := rfl
  delegator := rfl
  delegatee := rfl
  role := Value.nullable_id? d.role
  permissions := Value.json?_of_decode
    (Json.Decoder.list_ofList fun p _ => p.decode_toJson)
  startsAt := Value.instant?_ofInstant_of_inMicroseconds (h _ (by simp [Delegation.instants]))
  endsAt := Value.instant?_ofInstant_of_inMicroseconds (h _ (by simp [Delegation.instants]))
  active := rfl
  revokedAt := Value.nullable_instant?_of_inMicroseconds fun t ht =>
    h t (by simp [Delegation.instants, ht])
  reason := Value.nullable_text? d.reason
  createdAt := Value.instant?_ofInstant_of_inMicroseconds (h _ (by simp [Delegation.instants]))

theorem Overrides.holds_toRow {o : Override} (h : ∀ t ∈ o.instants, t.InMicroseconds) :
    Holds (toRow o) o where
  id := rfl
  organization := rfl
  user := rfl
  resourceType := rfl
  permissionType := rfl
  permissionAction := rfl
  resourceId := rfl
  granted := rfl
  expiresAt := Value.nullable_instant?_of_inMicroseconds fun t ht =>
    h t (by simp [Override.instants, ht])
  revokedAt := Value.nullable_instant?_of_inMicroseconds fun t ht =>
    h t (by simp [Override.instants, ht])
  grantedBy := Value.nullable_id? o.grantedBy
  createdAt := Value.instant?_ofInstant_of_inMicroseconds (h _ (by simp [Override.instants]))

theorem AuditEntries.ofRow?_toRow {e : AuditEntry} (h : e.createdAt.InMicroseconds) :
    ofRow? (toRow e) = some e := by
  have hactor : (toRow e).read? "actor_id" (Value.nullable Value.id?) = some e.actor :=
    Value.nullable_id? e.actor
  have htype : (toRow e).read? "resource_type" (Value.nullable Value.text?) =
      some e.resourceType := Value.nullable_text? e.resourceType
  have hid : (toRow e).read? "resource_id" (Value.nullable Value.text?) = some e.resourceId :=
    Value.nullable_text? e.resourceId
  have hcontext : (toRow e).read? "context" (Value.json? .members) = some e.context :=
    Value.json?_of_decode (by simp [Json.Decoder.members, Json.Decoder.value, bind, Except.bind])
  have haddress : (toRow e).read? "ip_address" (Value.nullable Value.text?) = some e.ipAddress :=
    Value.nullable_text? e.ipAddress
  have hagent : (toRow e).read? "user_agent" (Value.nullable Value.text?) = some e.userAgent :=
    Value.nullable_text? e.userAgent
  have hcreated : (toRow e).read? "created_at" Value.instant? = some e.createdAt :=
    Value.instant?_ofInstant_of_inMicroseconds h
  rw [ofRow?, hactor, htype, hid, hcontext, haddress, hagent, hcreated]
  rfl

namespace Roles

theorem ofRow?_ownedGrantRow (id : RoleId) (g : RoleGrant) :
    StoredGrant.ofRow? (ownedGrantRow id g) = some ⟨id, g⟩ := by
  have hconditions : (ownedGrantRow id g).read? "conditions"
      (Value.json? GrantConditions.decode) = some g.conditions :=
    Value.json?_of_decode g.conditions.decode_toJson
  have hscope : (ownedGrantRow id g).read? "scope" (Value.json? GrantScope.decode) =
      some g.scope := Value.json?_of_decode g.scope.decode_toJson
  rw [StoredGrant.ofRow?, hconditions, hscope]
  rfl

/-- What a database shows that holds the rows of a role, with its grants in a given order. -/
def shown? (organization : OrganizationId) (id : Option RoleId) (role : Role)
    (grants : List RoleGrant) : Option Script := do
  let row ← (selectRoles organization id).show? (insertRole role).inserted
  let rows ← grants.mapM fun g => (selectGrants [role.id]).show? (insertGrant role.id g).inserted
  return { replies := [.ok { rows := [row] }, .ok { rows }] }

theorem shown?_eq_some (organization : OrganizationId) (id : Option RoleId) (role : Role)
    (grants : List RoleGrant) :
    shown? organization id role grants = some {
      replies := [.ok { rows := [roleRow role] },
        .ok { rows := grants.map (ownedGrantRow role.id) }] } := by
  have hrole : (selectRoles organization id).show? (insertRole role).inserted =
      some (roleRow role) :=
    Selection.show?_inserted rfl (by simp [Row.columns, roleRow]) "roles"
  have hgrant : ∀ g ∈ grants,
      (selectGrants [role.id]).show? (insertGrant role.id g).inserted =
        some (ownedGrantRow role.id g) := fun g _ =>
    Selection.show?_inserted rfl (by simp [Row.columns, grantRow]) "role_permissions"
  rw [shown?, hrole, mapM_eq_some_map hgrant]
  rfl

/-- A role is what its row holds, together with its grants. -/
theorem eq_of_stored_eq {r role : Role} (h : r.stored = role.stored) :
    r = { role with grants := r.grants } := by
  obtain ⟨id, organization, ⟨key, _⟩, name, ⟨priority, _⟩, isSystem, isEditable, grants⟩ := r
  simp only [Role.stored, StoredRole.mk.injEq, Int.ofNat_inj] at h
  obtain ⟨rfl, rfl, rfl, rfl, rfl, rfl, rfl⟩ := h
  rfl

theorem grantsOf_map_self (id : RoleId) (grants : List RoleGrant) :
    grantsOf id (grants.map (⟨id, ·⟩)) = grants := by
  simp [grantsOf, List.filter_map, Function.comp_def]

/-- The role comes back with its grants in the order in which they are shown. -/
theorem load_shown {organization : OrganizationId} {id : Option RoleId} {role : Role}
    (hname : Text.allBlank role.name = false) (grants : List RoleGrant) :
    ∃ script, shown? organization id role grants = some script ∧
      (script.run (load organization id)).1 = .ok [{ role with grants }] := by
  let grantRows : Answer := { rows := grants.map (ownedGrantRow role.id) }
  let script : Script := { replies := [.ok { rows := [roleRow role] }, .ok grantRows] }
  refine ⟨script, shown?_eq_some organization id role grants, ?_⟩
  have hrows : [roleRow role].mapM StoredRole.ofRow? = some [role.stored] := rfl
  have hgrants : grantRows.rows.mapM StoredGrant.ofRow? = some (grants.map (⟨role.id, ·⟩)) := by
    rw [List.mapM_map]
    exact mapM_eq_some_map fun g _ => ofRow?_ownedGrantRow role.id g
  have hids : ([role.stored].map (·.id)).Nodup := List.nodup_singleton _
  have hvalid : ∀ r ∈ [role.stored], r.IsValid :=
    List.forall_mem_singleton.mpr (StoredRole.isValid_stored hname)
  obtain ⟨roles, hload, hstored, hown⟩ :=
    load_of_isValid script organization id rfl hrows hids rfl hgrants hvalid
  obtain ⟨r, rfl, hr⟩ := List.map_eq_singleton_iff.mp hstored
  have hgrantsOf : r.grants = grants := by
    rw [hown r (.head _), show r.id = role.id from congrArg StoredRole.id hr, grantsOf_map_self]
  rw [hload, eq_of_stored_eq hr, hgrantsOf]

end Roles

/-- A delegation, an override and an entry are read back as they were inserted, if their times are
whole microseconds.  So is a role, in whichever order its grants are shown. -/
theorem inserted_rows_read_back :
    (∀ (d : Delegation) (conditions : List Condition) (order : List String),
      (∀ t ∈ d.instants, t.InMicroseconds) →
      ((Delegations.select conditions order).show? (Delegations.insert d).inserted).bind
        Delegations.ofRow? = some d) ∧
    (∀ (o : Override) (conditions : List Condition) (order : List String),
      (∀ t ∈ o.instants, t.InMicroseconds) →
      ((Overrides.select conditions order).show? (Overrides.insert o).inserted).bind
        Overrides.ofRow? = some o) ∧
    (∀ (e : AuditEntry) (q : AuditQuery), e.createdAt.InMicroseconds →
      ((AuditEntries.selectEntries q).show?
        (Statement.insert AuditEntries.table (AuditEntries.toRow e)).inserted).bind
        AuditEntries.ofRow? = some e) ∧
    (∀ (role : Role) (grants : List RoleGrant) (organization : OrganizationId)
      (id : Option RoleId), Text.allBlank role.name = false → grants.Perm role.grants →
      ∃ script loaded, Roles.shown? organization id role grants = some script ∧
        (script.run (Roles.load organization id)).1 = .ok [loaded] ∧
        loaded.EqUpToOrder role) := by
  refine ⟨?delegations, ?overrides, ?entries, ?roles⟩
  case delegations =>
      intro d conditions order htimes
      rw [Delegations.insert, Selection.show?_inserted rfl
        (by simp [Row.columns, Delegations.toRow])]
      exact Delegations.ofRow?_eq_some.mpr (Delegations.holds_toRow htimes)
  case overrides =>
      intro o conditions order htimes
      rw [Overrides.insert, Selection.show?_inserted rfl (by simp [Row.columns, Overrides.toRow])]
      exact Overrides.ofRow?_eq_some.mpr (Overrides.holds_toRow htimes)
  case entries =>
      intro e q htime
      rw [Selection.show?_inserted rfl (by simp [Row.columns, AuditEntries.toRow])]
      exact AuditEntries.ofRow?_toRow htime
  case roles =>
      intro role grants organization id hname hgrants
      obtain ⟨script, hshown, hload⟩ := Roles.load_shown hname grants
      exact ⟨script, _, hshown, hload, rfl, hgrants⟩

end Database

/-! ## Records of each kind -/

namespace Sample

open Database

/-- That the viewer was kept from a task. -/
def denial : AuditEntry where
  id := ⟨⟨9⟩⟩
  organization
  actor := some viewer
  action := "task.update"
  resourceType := some ResourceType.task.name
  resourceId := none
  permitted := false
  context := [("attempt", .integer 2)]
  ipAddress := some "10.0.0.7"
  userAgent := none
  createdAt := moment 30

end Sample

open Database Sample

theorem loan_permit_denial_and_porter_read_back :
    ((Delegations.select [] []).show? (Delegations.insert loan).inserted).bind
      Delegations.ofRow? = some loan ∧
    ((Overrides.select [] []).show? (Overrides.insert permit).inserted).bind
      Overrides.ofRow? = some permit ∧
    ((AuditEntries.selectEntries { limit := 10 }).show?
      (Statement.insert AuditEntries.table (AuditEntries.toRow denial)).inserted).bind
      AuditEntries.ofRow? = some denial ∧
    ∃ script loaded, Roles.shown? organization none porter porter.grants.reverse = some script ∧
      (script.run (Roles.load organization none)).1 = .ok [loaded] ∧
      loaded.EqUpToOrder porter := by
  have hloan : ∀ t ∈ loan.instants, t.InMicroseconds := by decide
  have hpermit : ∀ t ∈ permit.instants, t.InMicroseconds := by decide
  have hdenial : denial.createdAt.InMicroseconds := by decide
  have hname : Text.allBlank porter.name = false := by decide
  obtain ⟨hdelegations, hoverrides, hentries, hroles⟩ := inserted_rows_read_back
  exact ⟨hdelegations loan [] [] hloan, hoverrides permit [] [] hpermit, hentries denial _ hdenial,
    hroles porter _ organization none hname porter.grants.reverse_perm⟩

end AccessControl

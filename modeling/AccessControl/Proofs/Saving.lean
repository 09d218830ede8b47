import AccessControl.Database.Delegations
import AccessControl.Database.Overrides
import AccessControl.Proofs.Administration.Overrides
import AccessControl.Proofs.Sessions

/-!
# What saving keeps

A record whose life goes on is changed first and then saved.  Saving sends one statement, which
names the columns to be overwritten and leaves the others in the row as they are, so a change is
kept when its column is named and lost when it is not.

Both changes in the life of a delegation are kept, and so is a later end of an override.  The
revocation of an override is kept in its two times only: that a revoked override denies is not
written, and one that granted is read back as one that still does (`saved_reads_back`).
-/

namespace AccessControl.Database

/-! ## Overwriting a row -/

theorem lookup_map_values {α β γ : Type} [BEq α] [LawfulBEq α] (f : α → β → γ)
    (cells : List (α × β)) (a : α) :
    (cells.map fun c => (c.1, f c.1 c.2)).lookup a = (cells.lookup a).map (f a) := by
  induction cells with
  | nil => rfl
  | cons c rest ih =>
      obtain ⟨k, v⟩ := c
      rw [List.map_cons, List.lookup_cons, List.lookup_cons]
      cases hk : a == k with
      | true => simp [eq_of_beq hk]
      | false => exact ih

namespace Row

/-- The row in which the columns that are named in another one have the values from there. -/
def overwrite (r assigned : Row) : Row :=
  ⟨r.cells.map fun c => (c.1, (assigned.get? c.1).getD c.2)⟩

/-- Every instant in the row is one that the database can keep. -/
def IsExact (r : Row) : Prop := ∀ c ∈ r.cells, ∀ t ∈ c.2.instant?, kept t = t

instance (r : Row) : Decidable r.IsExact :=
  inferInstanceAs (Decidable (∀ c ∈ r.cells, ∀ t ∈ c.2.instant?, kept t = t))

variable {r assigned : Row} {column : String} {α : Type} {read : Value → Option α}

theorem get?_overwrite (r assigned : Row) (column : String) :
    (r.overwrite assigned).get? column =
      (r.get? column).map fun v => (assigned.get? column).getD v := by
  rw [get?, get?, overwrite, ← List.map_reverse]
  exact lookup_map_values (fun column v => (assigned.get? column).getD v) _ _

/-- A column that is not named is read as before. -/
theorem read?_overwrite_of_none (h : assigned.get? column = none) :
    (r.overwrite assigned).read? column read = r.read? column read := by
  simp [read?, get?_overwrite, h]

/-- A column that is named is read as it is assigned, if the row has it. -/
theorem read?_overwrite_of_some {a : α} {v : Value} (hread : r.read? column read = some a)
    (h : assigned.get? column = some v) : (r.overwrite assigned).read? column read = read v := by
  obtain ⟨old, hold, -⟩ := Option.bind_eq_some_iff.mp hread
  simp [read?, get?_overwrite, h, hold]

theorem mem_of_get? {v : Value} (h : r.get? column = some v) : (column, v) ∈ r.cells := by
  obtain ⟨before, behind, hcells, -⟩ := List.lookup_eq_some_iff.mp h
  rw [← List.mem_reverse, hcells]
  simp

theorem IsExact.kept_of_read? (h : r.IsExact) {t : Instant}
    (hread : r.read? column Value.instant? = some t) : kept t = t := by
  obtain ⟨v, hv, hinstant⟩ := Option.bind_eq_some_iff.mp hread
  exact h _ (mem_of_get? hv) t hinstant

theorem IsExact.map_kept_of_read? (h : r.IsExact) {t : Option Instant}
    (hread : r.read? column (Value.nullable Value.instant?) = some t) : t.map kept = t := by
  obtain ⟨v, hv, hinstant⟩ := Option.bind_eq_some_iff.mp hread
  cases v with
  | null =>
      obtain rfl : none = t := Option.some.inj hinstant
      rfl
  | timestamp t' =>
      obtain rfl : some t' = t := Option.some.inj hinstant
      rw [Option.map_some, h _ (mem_of_get? hv) t' rfl]
  | _ => cases hinstant

end Row

/-! ## Values that are written and read -/

namespace Value

theorem instant?_ofInstant (t : Instant) : (ofInstant t).instant? = some (kept t) := rfl

theorem boolean?_boolean (b : Bool) : (boolean b).boolean? = some b := rfl

theorem nullable_instant? (t : Option Instant) :
    nullable instant? (ofOption ofInstant t) = some (t.map kept) := by
  cases t <;> rfl

theorem nullable_text? (s : Option String) : nullable text? (ofOption text s) = some s := by
  cases s <;> rfl

end Value

/-! ## What a statement leaves behind -/

/-- The columns that a statement sets in a stored row, with their values. -/
def Statement.assigned (present : Instant) : Statement → Row
  | .update _ _ changes touched _ =>
    ⟨changes.cells ++ touched.map fun column => (column, .ofInstant present)⟩
  | _ => ⟨[]⟩

/-- A stored row after statements about it. -/
def Row.after (r : Row) (present : Instant) (sent : List Statement) : Row :=
  sent.foldl (fun r statement => r.overwrite (statement.assigned present)) r

/-- A stored row after a session in which the database answers as in the script. -/
def Row.saved (r : Row) (present : Instant) (script : Script) (session : Session Unit) : Row :=
  r.after present (Script.run { script with sent := [] } session).2.sent

theorem Row.saved_change (r : Row) (present : Instant) (script : Script)
    (explain : DatabaseFault → Fault) (missing : Fault) (table : String)
    (conditions : List Condition) (changes : Row) :
    r.saved present script (Session.change explain missing
      (.update table conditions changes [] [])) = r.overwrite changes := by
  rw [saved, Script.sent_change]
  simp [after, Statement.assigned]

/-! ## Delegations -/

namespace Delegations

variable {r : Row} {d : Delegation}

/-- The row has the columns of the delegation, and each reads as its field. -/
structure Holds (r : Row) (d : Delegation) : Prop where
  id : r.read? "id" Value.id? = some d.id
  organization : r.read? "organization_id" Value.id? = some d.organization
  delegator : r.read? "delegator_id" Value.id? = some d.delegator
  delegatee : r.read? "delegatee_id" Value.id? = some d.delegatee
  role : r.read? "role_id" (Value.nullable Value.id?) = some d.role
  permissions : r.read? "permissions" (Value.json? (.list StoredPermission.decode)) =
    some d.permissions
  startsAt : r.read? "starts_at" Value.instant? = some d.startsAt
  endsAt : r.read? "ends_at" Value.instant? = some d.endsAt
  active : r.read? "active" Value.boolean? = some d.active
  revokedAt : r.read? "revoked_at" (Value.nullable Value.instant?) = some d.revokedAt
  reason : r.read? "reason" (Value.nullable Value.text?) = some d.reason
  createdAt : r.read? "created_at" Value.instant? = some d.createdAt

theorem ofRow?_eq_some : ofRow? r = some d ↔ Holds r d := by
  simp only [ofRow?, Option.bind_eq_bind, Option.bind_eq_some_iff, Option.pure_def,
    Option.some.injEq]
  constructor
  · rintro ⟨_, h₁, _, h₂, _, h₃, _, h₄, _, h₅, _, h₆, _, h₇, _, h₈, _, h₉, _, h₁₀, _, h₁₁, _,
      h₁₂, rfl⟩
    exact ⟨h₁, h₂, h₃, h₄, h₅, h₆, h₇, h₈, h₉, h₁₀, h₁₁, h₁₂⟩
  · rintro ⟨h₁, h₂, h₃, h₄, h₅, h₆, h₇, h₈, h₉, h₁₀, h₁₁, h₁₂⟩
    exact ⟨_, h₁, _, h₂, _, h₃, _, h₄, _, h₅, _, h₆, _, h₇, _, h₈, _, h₉, _, h₁₀, _, h₁₁, _,
      h₁₂, rfl⟩

/-- Of what is saved over a delegation the end, the marks of revocation and the reason are kept. -/
theorem Holds.overwrite (h : Holds r d) (e : Delegation) :
    Holds (r.overwrite (changes e))
      { d with endsAt := kept e.endsAt, active := e.active, revokedAt := e.revokedAt.map kept,
               reason := e.reason } where
  id := (Row.read?_overwrite_of_none rfl).trans h.id
  organization := (Row.read?_overwrite_of_none rfl).trans h.organization
  delegator := (Row.read?_overwrite_of_none rfl).trans h.delegator
  delegatee := (Row.read?_overwrite_of_none rfl).trans h.delegatee
  role := (Row.read?_overwrite_of_none rfl).trans h.role
  permissions := (Row.read?_overwrite_of_none rfl).trans h.permissions
  startsAt := (Row.read?_overwrite_of_none rfl).trans h.startsAt
  endsAt := (Row.read?_overwrite_of_some h.endsAt rfl).trans (Value.instant?_ofInstant _)
  active := (Row.read?_overwrite_of_some h.active rfl).trans (Value.boolean?_boolean _)
  revokedAt := (Row.read?_overwrite_of_some h.revokedAt rfl).trans (Value.nullable_instant? _)
  reason := (Row.read?_overwrite_of_some h.reason rfl).trans (Value.nullable_text? _)
  createdAt := (Row.read?_overwrite_of_none rfl).trans h.createdAt

theorem ofRow?_saved (h : ofRow? r = some d) (e : Delegation) (present : Instant)
    (script : Script) :
    ofRow? (r.saved present script (save e)) =
      some { d with endsAt := kept e.endsAt, active := e.active,
                    revokedAt := e.revokedAt.map kept, reason := e.reason } := by
  rw [save, update, Row.saved_change]
  exact ofRow?_eq_some.mpr ((ofRow?_eq_some.mp h).overwrite e)

end Delegations

/-! ## Overrides -/

namespace Overrides

variable {r : Row} {o : Override}

/-- The row has the columns of the override, and each reads as its field. -/
structure Holds (r : Row) (o : Override) : Prop where
  id : r.read? "id" Value.id? = some o.id
  organization : r.read? "organization_id" Value.id? = some o.organization
  user : r.read? "user_id" Value.id? = some o.user
  resourceType : r.read? "resource_type" Value.text? = some o.resourceType
  permissionType : r.read? "permission_resource_type" Value.text? =
    some o.permission.resourceType
  permissionAction : r.read? "permission_action" Value.text? = some o.permission.action
  resourceId : r.read? "resource_id" Value.text? = some o.resourceId
  granted : r.read? "granted" Value.boolean? = some o.granted
  expiresAt : r.read? "expires_at" (Value.nullable Value.instant?) = some o.expiresAt
  revokedAt : r.read? "revoked_at" (Value.nullable Value.instant?) = some o.revokedAt
  grantedBy : r.read? "granted_by" (Value.nullable Value.id?) = some o.grantedBy
  createdAt : r.read? "created_at" Value.instant? = some o.createdAt

theorem ofRow?_eq_some : ofRow? r = some o ↔ Holds r o := by
  simp only [ofRow?, Option.bind_eq_bind, Option.bind_eq_some_iff, Option.pure_def,
    Option.some.injEq]
  constructor
  · rintro ⟨_, h₁, _, h₂, _, h₃, _, h₄, _, h₅, _, h₆, _, h₇, _, h₈, _, h₉, _, h₁₀, _, h₁₁, _,
      h₁₂, rfl⟩
    exact ⟨h₁, h₂, h₃, h₄, h₅, h₆, h₇, h₈, h₉, h₁₀, h₁₁, h₁₂⟩
  · rintro ⟨h₁, h₂, h₃, h₄, h₅, h₆, h₇, h₈, h₉, h₁₀, h₁₁, h₁₂⟩
    exact ⟨_, h₁, _, h₂, _, h₃, _, h₄, _, h₅, _, h₆, _, h₇, _, h₈, _, h₉, _, h₁₀, _, h₁₁, _,
      h₁₂, rfl⟩

/-- Of what is saved over an override the end and the time of revocation are kept. -/
theorem Holds.overwrite (h : Holds r o) (p : Override) :
    Holds (r.overwrite (changes p))
      { o with expiresAt := p.expiresAt.map kept, revokedAt := p.revokedAt.map kept } where
  id := (Row.read?_overwrite_of_none rfl).trans h.id
  organization := (Row.read?_overwrite_of_none rfl).trans h.organization
  user := (Row.read?_overwrite_of_none rfl).trans h.user
  resourceType := (Row.read?_overwrite_of_none rfl).trans h.resourceType
  permissionType := (Row.read?_overwrite_of_none rfl).trans h.permissionType
  permissionAction := (Row.read?_overwrite_of_none rfl).trans h.permissionAction
  resourceId := (Row.read?_overwrite_of_none rfl).trans h.resourceId
  granted := (Row.read?_overwrite_of_none rfl).trans h.granted
  expiresAt := (Row.read?_overwrite_of_some h.expiresAt rfl).trans (Value.nullable_instant? _)
  revokedAt := (Row.read?_overwrite_of_some h.revokedAt rfl).trans (Value.nullable_instant? _)
  grantedBy := (Row.read?_overwrite_of_none rfl).trans h.grantedBy
  createdAt := (Row.read?_overwrite_of_none rfl).trans h.createdAt

theorem ofRow?_saved (h : ofRow? r = some o) (p : Override) (present : Instant)
    (script : Script) :
    ofRow? (r.saved present script (save p)) =
      some { o with expiresAt := p.expiresAt.map kept, revokedAt := p.revokedAt.map kept } := by
  rw [save, update, Row.saved_change]
  exact ofRow?_eq_some.mpr ((ofRow?_eq_some.mp h).overwrite p)

end Overrides

/-! ## Lives that are saved -/

/-- What became of a delegation by its revocation or by a later end is read back from its row after
it has been saved, and so is an override with a later end.  A revoked override is read back with its
two times, and grants if it granted before. -/
theorem saved_reads_back {r : Row} (hexact : r.IsExact) (present : Instant) (script : Script)
    {now t : Instant} (hnow : kept now = now) (ht : kept t = t) :
    (∀ d e, Delegations.ofRow? r = some d → d.revoke now = .ok e ∨ d.extend t now = .ok e →
      Delegations.ofRow? (r.saved present script (Delegations.save e)) = some e) ∧
    (∀ o p, Overrides.ofRow? r = some o → o.extend t now = .ok p →
      Overrides.ofRow? (r.saved present script (Overrides.save p)) = some p) ∧
    (∀ o p, Overrides.ofRow? r = some o → o.revoke now = .ok p →
      p.granted = false ∧
      Overrides.ofRow? (r.saved present script (Overrides.save p)) =
        some { p with granted := o.granted }) := by
  refine ⟨?_, ?_, ?_⟩
  · intro d e hread hlife
    have hd := Delegations.ofRow?_eq_some.mp hread
    have hends := hexact.kept_of_read? hd.endsAt
    have hrevoked := hexact.map_kept_of_read? hd.revokedAt
    rw [Delegations.ofRow?_saved hread]
    rcases hlife with hlife | hlife
    · rw [Delegation.eq_of_revoke hlife]
      simp [hends, hnow]
    · rw [Delegation.eq_of_extend hlife]
      simp [hrevoked, ht]
  · intro o p hread hlife
    have ho := Overrides.ofRow?_eq_some.mp hread
    have hrevoked := hexact.map_kept_of_read? ho.revokedAt
    rw [Overrides.ofRow?_saved hread, Override.eq_of_extend hlife]
    simp [hrevoked, ht]
  · intro o p hread hlife
    rw [Overrides.ofRow?_saved hread, Override.eq_of_revoke hlife]
    simp [hnow]

end AccessControl.Database

namespace AccessControl

/-! ## A permit and a loan -/

namespace Sample

/-- The time of a count of seconds. -/
def moment (second : Int) : Instant := .ofSecond second 0

/-- The viewer may update a task for an hour. -/
def permit : Override where
  id := ⟨⟨7⟩⟩
  organization
  user := viewer
  permission := (⟨.task, .update⟩ : Permission).stored
  resourceType := ResourceType.task.name
  resourceId := "7"
  granted := true
  expiresAt := some (moment 3600)
  revokedAt := none
  grantedBy := some owner
  createdAt := moment 0

/-- The permit after its revocation in the first minute. -/
def revokedPermit : Override :=
  { permit with granted := false, expiresAt := some (moment 60), revokedAt := some (moment 60) }

/-- The administrator lets the viewer update tasks for an hour. -/
def loan : Delegation where
  id := ⟨⟨8⟩⟩
  organization
  delegator := admin
  delegatee := viewer
  role := none
  permissions := [(⟨.task, .update⟩ : Permission).stored]
  startsAt := moment 0
  endsAt := moment 3600
  active := true
  revokedAt := none
  reason := some "absence"
  createdAt := moment 0

/-- A database that finds the row. -/
def finding : Database.Script := { replies := [.ok { affected := 1 }] }

end Sample

open Database Sample

/-- A permit that is revoked and saved is read back as one that is revoked and grants. -/
theorem revoked_permit_still_grants :
    (Overrides.toRow permit).IsExact ∧ Overrides.ofRow? (Overrides.toRow permit) = some permit ∧
      permit.revoke (moment 60) = .ok revokedPermit ∧ revokedPermit.granted = false ∧
      Overrides.ofRow? ((Overrides.toRow permit).saved (moment 60) finding
        (Overrides.save revokedPermit)) = some { revokedPermit with granted := true } ∧
      { revokedPermit with granted := true } ≠ revokedPermit :=
  ⟨by decide, rfl, rfl, rfl, rfl, by decide⟩

/-- A loan that is revoked and a permit that is prolonged are read back as they are saved. -/
theorem revoked_loan_reads_back :
    (Delegations.toRow loan).IsExact ∧ (Overrides.toRow permit).IsExact ∧
      kept (moment 60) = moment 60 ∧ kept (moment 7200) = moment 7200 ∧
      Delegations.ofRow? (Delegations.toRow loan) = some loan ∧
      Delegations.ofRow? ((Delegations.toRow loan).saved (moment 60) finding
        (Delegations.save { loan with active := false, revokedAt := some (moment 60) })) =
          some { loan with active := false, revokedAt := some (moment 60) } ∧
      Overrides.ofRow? (Overrides.toRow permit) = some permit ∧
      Overrides.ofRow? ((Overrides.toRow permit).saved (moment 60) finding
        (Overrides.save { permit with expiresAt := some (moment 7200) })) =
          some { permit with expiresAt := some (moment 7200) } := by
  have hloan : (Delegations.toRow loan).IsExact := by decide
  have hpermit : (Overrides.toRow permit).IsExact := by decide
  have hnow : kept (moment 60) = moment 60 := by decide
  have hend : kept (moment 7200) = moment 7200 := by decide
  have hread : Delegations.ofRow? (Delegations.toRow loan) = some loan := by rfl
  refine ⟨hloan, hpermit, hnow, hend, hread, ?_, rfl, ?_⟩
  · exact (saved_reads_back hloan (moment 60) finding hnow hend).1 loan _ hread (.inl rfl)
  · exact (saved_reads_back hpermit (moment 60) finding hnow hend).2.1 permit _ rfl rfl

end AccessControl

import AccessControl.Proofs.RequestIsolation
import AccessControl.Proofs.RoleGrants

/-!
# The hours of stored grants

A window of hours is made by `HourWindow.parse`, which accepts those that are within a day and do
not end where they start.  In the body of a request a window is any two bytes, though, and behind
that a grant is only asked to have a window if it is restricted in time.  So what is stored is what
was sent: a request that is answered with success stores windows that `HourWindow.parse` accepts
exactly when it was sent such windows (`Http.Brings.hoursValid_iff`).

A window that ends where it starts contains every hour, so that a grant with such a window is not
restricted at all.
-/

namespace AccessControl

open Administration Service

/-! ## Windows -/

namespace HourWindow

variable {w : HourWindow}

/-- The window is one that can be made. -/
def IsValid (w : HourWindow) : Prop := parse w.start w.stop = .ok w

instance (w : HourWindow) : Decidable w.IsValid := inferInstanceAs (Decidable (_ = _))

/-- Windows start within the day, end by its end, and do not end where they start. -/
theorem isValid_iff : w.IsValid ↔ w.start ≤ 23 ∧ w.stop ≤ 24 ∧ w.start ≠ w.stop := by
  rw [IsValid, parse]
  by_cases hrange : 23 < w.start ∨ 24 < w.stop
  · rw [if_pos hrange]
    refine iff_of_false nofun ?_
    rintro ⟨hstart, hstop, -⟩
    rcases hrange with h | h
    · exact UInt8.not_lt.mpr hstart h
    · exact UInt8.not_lt.mpr hstop h
  · obtain ⟨hstart, hstop⟩ := not_or.mp hrange
    rw [if_neg hrange, and_iff_right (UInt8.not_lt.mp hstart),
      and_iff_right (UInt8.not_lt.mp hstop)]
    by_cases hempty : w.start = w.stop
    · simp [hempty]
    · simp [hempty]

/-- A window that ends where it starts is always open. -/
theorem contains_of_start_eq_stop (h : w.start = w.stop) (hour : Nat) : w.contains hour = true := by
  rw [contains, h, if_neg (UInt8.lt_irrefl _)]
  rcases Nat.lt_or_ge hour w.stop.toNat with hlt | hge
  · simp [hlt]
  · simp [hge]

end HourWindow

namespace GrantConditions

variable {c : GrantConditions}

/-- If the conditions restrict a grant in time, they do so by a window that can be made. -/
def HoursValid (c : GrantConditions) : Prop :=
  c.timeRestricted = true → ∃ w, c.hours = some w ∧ w.IsValid

/-- What is asked of conditions is that there is a window. -/
theorem validate_eq_ok : c.validate = .ok () ↔
    (c.timeRestricted = true → ∃ w, c.hours = some w) := by
  rw [validate]
  cases c.timeRestricted <;> cases c.hours <;> simp

/-- A restriction to a window that ends where it starts is none. -/
theorem inHours_of_start_eq_stop {w : HourWindow} (hhours : c.hours = some w)
    (h : w.start = w.stop) (b : Bearer) : b.inHours c = true := by
  rw [Bearer.inHours, hhours, Option.any_some, HourWindow.contains_of_start_eq_stop h, Bool.or_true]

end GrantConditions

/-! ## From drafts to grants -/

/-- A grant has the conditions that it was made with. -/
theorem RoleGrant.conditions_of_create {permission : Permission} {conditions : GrantConditions}
    {scope : GrantScope} {g : RoleGrant} (h : create permission conditions scope = .ok g) :
    g.conditions = conditions := by
  rw [create] at h
  split at h
  · cases h
  · obtain ⟨_, -, h⟩ := Outcome.exists_of_bind h
    obtain ⟨_, -, h⟩ := Outcome.exists_of_bind h
    obtain rfl := Except.ok.inj h
    rfl

/-- Drafts that are accepted make one grant each, with their conditions. -/
theorem GrantDraft.conditions_of_toGrants {seen : List Permission} {drafts : List GrantDraft}
    {grants : List RoleGrant} (h : toGrants seen drafts = .ok grants) :
    grants.map (·.conditions) = drafts.map (·.conditions) := by
  induction drafts generalizing seen grants with
  | nil =>
      obtain rfl := Except.ok.inj h
      rfl
  | cons d rest ih =>
      rw [toGrants] at h
      split at h
      · cases h
      · obtain ⟨grant, hgrant, h⟩ := Outcome.exists_of_bind h
        obtain ⟨others, hothers, h⟩ := Outcome.exists_of_bind h
        obtain rfl := Except.ok.inj h
        rw [List.map_cons, List.map_cons, ih hothers, RoleGrant.conditions_of_create hgrant]

namespace Http

theorem GrantBody.conditions_of_toDraft {body : GrantBody} {draft : GrantDraft}
    (h : body.toDraft = .ok draft) : draft.conditions = body.conditions := by
  obtain ⟨p, -, h⟩ := Outcome.exists_of_bind h
  obtain rfl := Except.ok.inj h
  rfl

theorem GrantBody.conditions_of_mapM {bodies : List GrantBody} {drafts : List GrantDraft}
    (h : bodies.mapM toDraft = .ok drafts) :
    drafts.map (·.conditions) = bodies.map (·.conditions) := by
  induction bodies generalizing drafts with
  | nil =>
      obtain rfl := Except.ok.inj h
      rfl
  | cons body rest ih =>
      rw [List.mapM_cons] at h
      obtain ⟨draft, hdraft, h⟩ := Outcome.exists_of_bind h
      obtain ⟨others, hothers, h⟩ := Outcome.exists_of_bind h
      obtain rfl := Except.ok.inj h
      rw [List.map_cons, List.map_cons, ih hothers, conditions_of_toDraft hdraft]

theorem RoleBody.conditions_of_toDraft {body : RoleBody} {draft : RoleDraft}
    (h : body.toDraft = .ok draft) :
    draft.grants.map (·.conditions) = body.grants.map (·.conditions) := by
  obtain ⟨grants, hgrants, h⟩ := Outcome.exists_of_bind h
  obtain rfl := Except.ok.inj h
  exact GrantBody.conditions_of_mapM hgrants

/-! ## Requests that bring grants -/

section Brings

variable {c : Context} {caller : Caller} {organization : OrganizationId} {r : Request}
  {endpoint : Endpoint} {bodies : List GrantBody} {b d : Backend} {response : Response}

/-- The grants in the body of a request to an endpoint. -/
inductive Brings (r : Request) : Endpoint → List GrantBody → Prop
  | createRole {body : RoleBody} (hbody : readBody r RoleBody.decode = .ok body) :
    Brings r .createRole body.grants
  | addPermission {role : List Char} {body : GrantBody}
    (hbody : readBody r GrantBody.decode = .ok body) : Brings r (.addPermission role) [body]

/-- What an operation with an argument comes to, it comes to with an argument that makes sense. -/
theorem exists_of_run_operateOn {α : Type} {argument : Outcome α}
    {run : Actor → α → Service Response}
    (h : b.run (operateOn caller organization argument run) = (.ok response, d)) :
    ∃ actor a, actor.organization = organization ∧ argument = .ok a ∧
      b.run (run actor a) = (.ok response, d) := by
  obtain ⟨actor, b', hactor, h⟩ := exists_of_run_bind h
  obtain ⟨a, b'', hargument, h⟩ := exists_of_run_bind h
  obtain rfl : b = b' := congrArg Prod.snd hactor
  obtain rfl : b = b'' := congrArg Prod.snd hargument
  have hcaller : caller.actor organization = .ok actor := congrArg Prod.fst hactor
  refine ⟨actor, a, ?_, congrArg Prod.fst hargument, h⟩
  rw [Caller.actor] at hcaller
  split at hcaller
  · cases hcaller
  · obtain rfl := Except.ok.inj hcaller
    rfl

/-- What is stored of grants that a request brings, behind those that were there: their conditions
are as they were sent. -/
structure Stored (b : Backend) (organization : OrganizationId) (bodies : List GrantBody)
    (store : Store) (role : Role) (grants : List RoleGrant) : Prop where
  within : role.organization = organization
  store : store = b.store.putRole role
  before : role.grants = grants ∨ ∃ stored,
    b.store.findRole organization role.id = some stored ∧ role.grants = stored.grants ++ grants
  conditions : grants.map (·.conditions) = bodies.map (·.conditions)
  valid : ∀ g ∈ grants, g.Valid

theorem Brings.exists_stored {p : Service Response} (h : Brings r endpoint bodies)
    (hhandler : endpoint.handler c caller organization r = .ok p)
    (hrun : b.run p = (.ok response, d)) :
    ∃ role grants, Stored b organization bodies d.store role grants := by
  cases h with
  | @createRole body hbody =>
      rw [Endpoint.handler, hbody] at hhandler
      obtain rfl := Except.ok.inj hhandler
      obtain ⟨actor, draft, hactor, hdraft, hrun⟩ := exists_of_run_operateOn hrun
      obtain ⟨role, d', hcreates, hreturn⟩ := exists_of_run_bind hrun
      obtain rfl : d' = d := congrArg Prod.snd hreturn
      have hcreated : RoleCreated b c.setting actor draft role d'.store :=
        (ends_createRole draft).of_run hcreates
      refine ⟨role, role.grants,
        ⟨hcreated.organization.trans hactor, hcreated.store, .inl rfl, ?_, ?_⟩⟩
      · rw [GrantDraft.conditions_of_toGrants hcreated.grants,
          RoleBody.conditions_of_toDraft hdraft]
      · exact (GrantDraft.grantsSound_of_toGrants hcreated.grants).1.valid
  | @addPermission text body hbody =>
      obtain ⟨id, hid⟩ : ∃ id : RoleId, readId text = .ok id := by
        rcases hid : (readId text : Except Rejection RoleId) with rejection | id
        · rw [Endpoint.handler, hid] at hhandler
          cases hhandler
        · exact ⟨id, rfl⟩
      rw [Endpoint.handler, hid, hbody] at hhandler
      obtain rfl := Except.ok.inj hhandler
      obtain ⟨actor, draft, rfl, hdraft, hrun⟩ := exists_of_run_operateOn hrun
      obtain ⟨role, d', hadds, hreturn⟩ := exists_of_run_bind hrun
      obtain rfl : d' = d := congrArg Prod.snd hreturn
      have hadded : PermissionAdded b c.setting actor id draft role d'.store :=
        (ends_addPermission id draft).of_run hadds
      obtain ⟨stored, grant, heditable, hgrant, -, -, rfl⟩ := hadded.stored
      obtain ⟨-, hid', horganization⟩ := Store.findRole_eq_some.mp heditable.found
      refine ⟨{ stored with grants := stored.grants ++ [grant] }, [grant],
        ⟨horganization, hadded.store, .inr ⟨stored, ?_, rfl⟩, ?_, ?_⟩⟩
      · exact hid' ▸ heditable.found
      · rw [List.map_singleton, List.map_singleton, RoleGrant.conditions_of_create hgrant,
          GrantBody.conditions_of_toDraft hdraft]
      · exact List.forall_mem_singleton.mpr (RoleGrant.valid_of_create hgrant).1

/-- A request that brings grants and is answered with success stores them as they are: those that
are restricted in time have a window, and all of these windows can be made exactly when that holds
of those that were sent. -/
theorem Brings.hoursValid_iff {p : Service Response} (h : Brings r endpoint bodies)
    (hhandler : endpoint.handler c caller organization r = .ok p)
    (hrun : b.run p = (.ok response, d)) :
    ∃ role grants, Stored b organization bodies d.store role grants ∧
      (∀ g ∈ grants, g.conditions.timeRestricted = true → ∃ w, g.conditions.hours = some w) ∧
      ((∀ g ∈ grants, g.conditions.HoursValid) ↔ ∀ body ∈ bodies, body.conditions.HoursValid) := by
  obtain ⟨role, grants, hstored⟩ := h.exists_stored hhandler hrun
  refine ⟨role, grants, hstored, ?_, ?_⟩
  · intro g hg
    exact GrantConditions.validate_eq_ok.mp (hstored.valid g hg).conditions
  · have hgrants := List.forall_mem_map (l := grants) (f := (·.conditions))
      (P := GrantConditions.HoursValid)
    have hbodies := List.forall_mem_map (l := bodies) (f := (·.conditions))
      (P := GrantConditions.HoursValid)
    rw [← hgrants, hstored.conditions, hbodies]

end Brings

end Http

/-! ## A role for some hours -/

namespace Sample

open Http

/-- The conditions of a grant for the hours of a window. -/
def inWindow (w : HourWindow) : GrantConditions := { timeRestricted := true, hours := some w }

/-- The owner creates a role whose members read tasks in the hours of a window. -/
def shiftRequest (w : HourWindow) : Request where
  method := "POST"
  target := { path := "/api/organizations/00000000-0000-0000-0000-000000000001/roles".toList }
  headers := [("content-type", "application/json"),
    ("x-actor-id", "00000000-0000-0000-0000-000000000001")]
  body := Json.render <| .object [("key", .string "shift"), ("name", .string "Shift"),
    ("priority", .ofNat 10), ("grants", .array [.object [("permission", .string "task.read"),
      ("conditions", (inWindow w).toJson)]])]

def shiftBody (w : HourWindow) : RoleBody where
  key := "shift"
  name := "Shift"
  priority := 10
  grants := [{ permission := "task.read", conditions := inWindow w, scope := {} }]

/-- The role that is stored. -/
def shiftRole (w : HourWindow) : Role where
  id := backend.nextId .role
  organization
  key := ⟨"shift", by decide⟩
  name := "Shift"
  priority := .viewer
  isSystem := false
  isEditable := true
  grants := [{ permission := (⟨.task, .read⟩ : Permission).stored, conditions := inWindow w }]

end Sample

open Sample

/-- A role for the hours from nine to five is stored with them. -/
theorem shift_has_valid_hours :
    ∃ p response d, Http.Endpoint.createRole.handler context { user := some owner } organization
          (shiftRequest ⟨9, 17⟩) = .ok p ∧
      backend.run p = (.ok response, d) ∧
      ∃ role grants,
        Http.Stored backend organization (shiftBody ⟨9, 17⟩).grants d.store role grants ∧
        ∀ g ∈ grants, g.conditions.HoursValid := by
  obtain ⟨hbody, hanswered⟩ :
      Http.readBody (shiftRequest ⟨9, 17⟩) Http.RoleBody.decode = .ok (shiftBody ⟨9, 17⟩) ∧
      (Http.Endpoint.createRole.handler context { user := some owner } organization
        (shiftRequest ⟨9, 17⟩)).map (fun p => (backend.run p).1.isOk) = .ok true := by
    decide +kernel
  rcases hhandler : Http.Endpoint.createRole.handler context { user := some owner } organization
    (shiftRequest ⟨9, 17⟩) with rejection | p
  · rw [hhandler] at hanswered
    cases hanswered
  rcases hrun : backend.run p with ⟨fault | response, d⟩
  · rw [hhandler, Except.map, hrun] at hanswered
    cases hanswered
  obtain ⟨role, grants, hstored, -, hvalid⟩ := (Http.Brings.createRole hbody).hoursValid_iff
    hhandler hrun
  refine ⟨p, response, d, rfl, hrun, role, grants, hstored, hvalid.mpr ?_⟩
  refine List.forall_mem_singleton.mpr fun _ => ⟨⟨9, 17⟩, rfl, ?_⟩
  exact HourWindow.isValid_iff.mpr (by decide)

/-- A role for the hours from nine to nine is stored as well, by a request that is answered with
success.  No such window can be made, and one who holds the role reads tasks at every hour. -/
theorem shift_without_hours_is_stored :
    let served := backend.run (Http.serve context (shiftRequest ⟨9, 9⟩))
    (served.1.map (·.status) = .ok 201 ∧
        served.2.store.findRole organization (shiftRole ⟨9, 9⟩).id = some (shiftRole ⟨9, 9⟩)) ∧
      HourWindow.parse 9 9 = .error .emptyHours ∧
      ∀ b : Bearer, b.inHours (inWindow ⟨9, 9⟩) = true :=
  ⟨by decide +kernel, rfl, GrantConditions.inHours_of_start_eq_stop rfl rfl⟩

end AccessControl

import AccessControl.Proofs.RoleForms

/-!
# Making the first roles while calls fail

The first roles of an organization are made one by one, and any call on the way may fail.  What has
been put in by then stays, so every attempt begins where the one before it got to.

An attempt puts in some of the roles that are missing, in the order of the templates and behind
everything that is there, and one that succeeds has put in all of them (`attempt_ensureRoles`).
Each is as its template has it (`Store.Gains.isMadeOf`).
What the organization will have in the end is therefore the same before and after every attempt
(`Attempt.completed`), and it does not matter how many it takes (`Unsteady.first_roles_converge`).
-/

namespace AccessControl

/-! ## Calls that fail now and then -/

/-- A state, and what goes wrong with the calls to come. -/
structure Unsteady where
  state : Backend
  outages : ℕ → Option Fault := fun _ => none

namespace Unsteady

/-- The same state, when one call is over. -/
def later (u : Unsteady) (b : Backend) : Unsteady := ⟨b, fun n => u.outages (n + 1)⟩

/-- What goes wrong with the next call, if it is this one.  Identifiers can always be had. -/
def outage? (u : Unsteady) (c : Call) : Option Fault :=
  (c.name?.bind fun _ => u.outages 0).or (u.state.outage? c)

/-- A call that fails has no effect. -/
def answer (c : Call) (u : Unsteady) : Outcome c.Reply × Unsteady :=
  match u.outage? c with
  | some fault => (.error fault, u.later u.state)
  | none => ((u.state.serve c).1, u.later (u.state.serve c).2)

/-- Run a program of the services. -/
def run {α : Type} (u : Unsteady) (p : Service α) : Outcome α × Unsteady := p.run answer u

/-- All calls to come are in order. -/
def Steady (u : Unsteady) : Prop := u.state.broken = [] ∧ ∀ n, u.outages n = none

variable {α β : Type} {u v : Unsteady} {p : Service α} {f : α → Service β}

theorem run_bind_ok {a : α} (h : u.run p = (.ok a, v)) : u.run (p >>= f) = v.run (f a) :=
  Program.run_bind_ok h

theorem run_bind_error {fault : Fault} (h : u.run p = (.error fault, v)) :
    u.run (p >>= f) = (.error fault, v) :=
  Program.run_bind_error h

/-- What becomes of a result leaves everything as it is. -/
theorem run_bind_pure (u : Unsteady) (p : Service α) (f : α → β) :
    u.run (p >>= fun a => pure (f a)) = ((u.run p).1.map f, (u.run p).2) := by
  rcases hrun : u.run p with ⟨fault | a, v⟩
  · exact run_bind_error hrun
  · exact run_bind_ok hrun

theorem Steady.later {b : Backend} (h : u.Steady) (hbroken : b.broken = u.state.broken) :
    (u.later b).Steady := ⟨hbroken.trans h.1, fun n => h.2 (n + 1)⟩

theorem Steady.outage? (h : u.Steady) (c : Call) : u.outage? c = none := by
  simp [Unsteady.outage?, Backend.outage?, h.1, h.2]

/-- A call fails and has no effect, or it is answered as the state serves it. -/
theorem run_ask_cases (u : Unsteady) (c : Call) :
    (¬u.Steady ∧ ∃ fault, u.run (Service.ask c) = (.error fault, u.later u.state)) ∨
      u.run (Service.ask c) = ((u.state.serve c).1, u.later (u.state.serve c).2) := by
  change (¬u.Steady ∧ ∃ fault, u.answer c = (.error fault, u.later u.state)) ∨ u.answer c = _
  rw [answer]
  cases hout : u.outage? c with
  | none => exact .inr rfl
  | some fault =>
      refine .inl ⟨fun hsteady => ?_, fault, rfl⟩
      rw [hsteady.outage?] at hout
      cases hout

end Unsteady

/-! ## What is missing -/

/-- The role under no identifier in particular. -/
def Role.anonymous (role : Role) : Role := { role with id := ⟨⟨0⟩⟩ }

/-- The role of the organization is as the template has it, whatever its identifier is. -/
structure Role.IsMadeOf (role : Role) (organization : OrganizationId) (r : LegacyRole) : Prop where
  organization : role.organization = organization
  key : role.key = r.key
  name : role.name = r.title
  priority : role.priority = r.priority
  isSystem : role.isSystem = true
  isEditable : role.isEditable = false
  grants : role.grants = r.grants

/-- The role that is made of a template, whatever its identifier is. -/
def LegacyRole.plan (r : LegacyRole) (organization : OrganizationId) : Role :=
  r.toRole ⟨⟨0⟩⟩ organization

namespace Store

/-- The templates of which the organization has no role. -/
def missing (s : Store) (organization : OrganizationId) (rs : List LegacyRole) :
    List LegacyRole :=
  rs.filter fun r => (s.findRoleByKey organization r.key).isNone

theorem missing_cons_of_ne {s : Store} {organization : OrganizationId} {r : LegacyRole}
    (h : s.findRoleByKey organization r.key ≠ none) (rs : List LegacyRole) :
    s.missing organization (r :: rs) = s.missing organization rs :=
  List.filter_cons_of_neg (by simpa using h)

theorem missing_cons_of_free {s : Store} {organization : OrganizationId} {r : LegacyRole}
    (h : s.findRoleByKey organization r.key = none) (rs : List LegacyRole) :
    s.missing organization (r :: rs) = r :: s.missing organization rs :=
  List.filter_cons_of_pos (by simpa using h)

/-- Roles of these templates are put in behind all that are there. -/
structure Gains (organization : OrganizationId) (s : Store) (made : List LegacyRole)
    (added : List Role) (t : Store) : Prop where
  rest : t = { s with roles := t.roles }
  rows : t.roles.rows = s.roles.rows ++ added
  made : added.map Role.anonymous = made.map (·.plan organization)

/-- The roles as they will be when none is missing any more. -/
def completed (s : Store) (organization : OrganizationId) : List Role :=
  s.roles.rows.map Role.anonymous ++
    (s.missing organization LegacyRole.all).map (·.plan organization)

variable {organization : OrganizationId} {s t v : Store} {made made' rs : List LegacyRole}
  {added added' : List Role}

theorem Gains.refl (s : Store) : Gains organization s [] [] s :=
  ⟨rfl, (List.append_nil _).symm, rfl⟩

theorem Gains.trans (h : Gains organization s made added t)
    (h' : Gains organization t made' added' v) :
    Gains organization s (made ++ made') (added ++ added') v where
  rest := by rw [h'.rest, h.rest]
  rows := by rw [h'.rows, h.rows, List.append_assoc]
  made := by rw [List.map_append, List.map_append, h.made, h'.made]

/-- The roles that are put in are made of the templates one by one. -/
theorem Gains.isMadeOf (h : Gains organization s made added t) :
    List.Forall₂ (·.IsMadeOf organization) added made := by
  have hplans : List.Forall₂ Eq (added.map Role.anonymous) (made.map (·.plan organization)) := by
    rw [List.forall₂_eq_eq_eq]
    exact h.made
  rw [List.forall₂_map_left_iff, List.forall₂_map_right_iff] at hplans
  refine hplans.imp fun role r heq => ?_
  exact {
    organization := congrArg Role.organization heq
    key := congrArg Role.key heq
    name := congrArg Role.name heq
    priority := congrArg Role.priority heq
    isSystem := congrArg Role.isSystem heq
    isEditable := congrArg Role.isEditable heq
    grants := congrArg Role.grants heq }

/-- The key of a template is free afterwards where it was free and no role was made of it. -/
theorem Gains.findRoleByKey_eq_none (h : Gains organization s made added t) (r : LegacyRole) :
    t.findRoleByKey organization r.key = none ↔
      s.findRoleByKey organization r.key = none ∧ r ∉ made := by
  have hmade : (∀ role ∈ added, role.organization = organization → role.key ≠ r.key) ↔
      r ∉ made := by
    constructor
    · intro hkeys hr
      have hplan : r.plan organization ∈ added.map Role.anonymous :=
        h.made ▸ List.mem_map_of_mem hr
      obtain ⟨role, hrole, heq⟩ := List.mem_map.mp hplan
      exact hkeys role hrole (congrArg Role.organization heq) (congrArg Role.key heq)
    · intro hr role hrole _ hkey
      have hplan : role.anonymous ∈ made.map (·.plan organization) :=
        h.made ▸ List.mem_map_of_mem hrole
      obtain ⟨r', hr', heq⟩ := List.mem_map.mp hplan
      have hsame : r'.key = r.key := (congrArg Role.key heq).trans hkey
      exact hr (LegacyRole.key_injective hsame ▸ hr')
  rw [Store.findRoleByKey_eq_none, Store.findRoleByKey_eq_none, h.rows, ← hmade]
  exact List.forall_mem_append

theorem Gains.missing (h : Gains organization s made added t) (rs : List LegacyRole) :
    t.missing organization rs = (s.missing organization rs).filter fun r => r ∉ made := by
  rw [Store.missing, Store.missing, List.filter_filter]
  refine List.filter_congr fun r _ => ?_
  rw [Bool.eq_iff_iff, Option.isNone_iff_eq_none, h.findRoleByKey_eq_none r]
  simp [and_comm]

/-- No other template is missing or there for it. -/
theorem Gains.missing_of_not_mem {r : LegacyRole} (h : Gains organization s [r] added t)
    (hr : r ∉ rs) : t.missing organization rs = s.missing organization rs := by
  rw [h.missing]
  refine List.filter_eq_self.mpr fun r' hr' => decide_eq_true fun hsame => hr ?_
  exact List.mem_singleton.mp hsame ▸ List.mem_of_mem_filter hr'

/-- What the organization will have in the end stays the same. -/
theorem Gains.completed (h : Gains organization s made added t) {rest : List LegacyRole}
    (hmissing : s.missing organization LegacyRole.all = made ++ rest) :
    t.missing organization LegacyRole.all = rest ∧
      t.completed organization = s.completed organization := by
  have hdistinct : (made ++ rest).Nodup := by
    rw [← hmissing]
    exact List.Nodup.filter _ (by decide)
  have hrest : t.missing organization LegacyRole.all = rest := by
    rw [h.missing, hmissing, List.filter_append]
    have hmade : made.filter (fun r => r ∉ made) = [] := by simp
    have hothers : rest.filter (fun r => r ∉ made) = rest :=
      List.filter_eq_self.mpr fun r hr => decide_eq_true fun hmem =>
        List.disjoint_of_nodup_append hdistinct hmem hr
    rw [hmade, hothers, List.nil_append]
  refine ⟨hrest, ?_⟩
  rw [Store.completed, Store.completed, hrest, hmissing, h.rows, List.map_append, List.map_append,
    h.made, List.append_assoc]

end Store

/-! ## One role -/

section OneRole

variable {organization : OrganizationId} {b : Backend} {n : Nat}

/-- With a fresh identifier the role of a template comes behind all others. -/
theorem Backend.FreshAhead.gains_addTemplate (hfresh : b.FreshAhead n) (hn : 1 ≤ n)
    (r : LegacyRole) : b.store.Gains organization [r] [r.toRole (b.nextId .role) organization]
      (b.addTemplate organization r).store where
  rest := rfl
  rows := by
    refine Table.rows_put_of_not_mem fun hmem => ?_
    obtain ⟨role, hrole, hid⟩ := List.mem_map.mp hmem
    exact hfresh.id_ne_nextId hn hrole hid
  made := rfl

/-- What comes of the making of one role. -/
inductive Makes (organization : OrganizationId) (r : LegacyRole) (u v : Unsteady) :
    Outcome (Option Role) → Prop
  | failed {fault : Fault} (hunsteady : ¬u.Steady) (hstate : v.state = u.state) :
      Makes organization r u v (.error fault)
  | there (hkey : u.state.store.findRoleByKey organization r.key ≠ none)
      (hsteady : u.Steady → v.Steady) (hstate : v.state = u.state) :
      Makes organization r u v (.ok none)
  | made (hfree : u.state.store.findRoleByKey organization r.key = none)
      (hsteady : u.Steady → v.Steady) (hstate : v.state = u.state.addTemplate organization r) :
      Makes organization r u v (.ok (some (r.toRole (u.state.nextId .role) organization)))

open Service Bootstrap

theorem makes_ensureRole (u : Unsteady) (organization : OrganizationId) (r : LegacyRole) :
    Makes organization r u (u.run (ensureRole organization r)).2
      (u.run (ensureRole organization r)).1 := by
  rw [ensureRole]
  rcases u.run_ask_cases (.findRoleByKey organization r.key) with ⟨hunsteady, fault, hask⟩ | hask
  · rw [Unsteady.run_bind_error hask]
    exact .failed hunsteady rfl
  let v := u.later u.state
  have hlookup : u.run (ask (.findRoleByKey organization r.key)) =
      (.ok (u.state.store.findRoleByKey organization r.key), v) := hask
  rw [Unsteady.run_bind_ok hlookup]
  cases hfound : u.state.store.findRoleByKey organization r.key with
  | some role => exact .there (by simp [hfound]) (fun h => h.later rfl) rfl
  | none =>
      let role := r.toRole (u.state.nextId .role) organization
      have hid : v.run (ask (.newId .role)) = (.ok (u.state.nextId .role), v.later v.state) := rfl
      dsimp only
      rw [Unsteady.run_bind_ok hid]
      rcases (v.later v.state).run_ask_cases (.createRole role) with
        ⟨hunsteady, fault, hask⟩ | hask
      · rw [Unsteady.run_bind_error hask]
        exact .failed (fun h => hunsteady ((h.later rfl).later rfl)) rfl
      · have hstore : u.state.store.createRole role = .ok (u.state.store.putRole role) :=
          Store.createRole_eq_ok.mpr ⟨hfound, rfl⟩
        have hserved : u.state.serve (.createRole role) =
            (.ok (), u.state.addTemplate organization r) := by
          rw [Backend.serve, hstore]
          rfl
        have hcreated : (v.later v.state).run (ask (.createRole role)) =
            (.ok (), (v.later v.state).later (u.state.addTemplate organization r)) := by
          rw [hask]
          exact congrArg (fun x => (x.1, (v.later v.state).later x.2)) hserved
        rw [Unsteady.run_bind_ok hcreated]
        exact .made hfound (fun h => ((h.later rfl).later rfl).later rfl) rfl

end OneRole

/-! ## An attempt -/

/-- How far an attempt gets that comes to the outcome. -/
structure Attempt (organization : OrganizationId) (rs : List LegacyRole) (u v : Unsteady)
    (outcome : Outcome (List Role)) (made : List LegacyRole) (added : List Role) : Prop where
  begins : made <+: u.state.store.missing organization rs
  gains : u.state.store.Gains organization made added v.state.store
  idle : made = [] → v.state = u.state
  ends : ¬u.Steady ∧ (∃ fault, outcome = .error fault) ∨
    made = u.state.store.missing organization rs ∧ outcome = .ok added

section Attempt

open Bootstrap

variable {organization : OrganizationId} {r : LegacyRole} {rs made : List LegacyRole}
  {u v w : Unsteady} {outcome : Outcome (List Role)} {added : List Role}

theorem Attempt.of_failed {fault : Fault} (hunsteady : ¬u.Steady) (hstate : v.state = u.state) :
    Attempt organization rs u v (.error fault) [] [] where
  begins := List.nil_prefix
  gains := hstate ▸ .refl _
  idle _ := hstate
  ends := .inl ⟨hunsteady, fault, rfl⟩

/-- A template whose role is there is passed over. -/
theorem Attempt.pass (h : Attempt organization rs v w outcome made added)
    (hkey : u.state.store.findRoleByKey organization r.key ≠ none) (hsteady : u.Steady → v.Steady)
    (hstate : v.state = u.state) :
    Attempt organization (r :: rs) u w (outcome.map ([] ++ ·)) made added := by
  obtain ⟨hbegins, hgains, hidle, hends⟩ := h
  have hmissing : u.state.store.missing organization (r :: rs) =
      v.state.store.missing organization rs := by
    rw [hstate, Store.missing_cons_of_ne hkey]
  rw [hstate] at hgains hidle
  refine ⟨hmissing ▸ hbegins, hgains, hidle, ?_⟩
  rcases hends with ⟨hunsteady, fault, rfl⟩ | ⟨hall, rfl⟩
  · exact .inl ⟨fun h => hunsteady (hsteady h), fault, rfl⟩
  · exact .inr ⟨hall.trans hmissing.symm, rfl⟩

/-- The role of a template is the first that is put in. -/
theorem Attempt.make {role : Role} (h : Attempt organization rs v w outcome made added)
    (hr : r ∉ rs) (hfree : u.state.store.findRoleByKey organization r.key = none)
    (hsteady : u.Steady → v.Steady)
    (hgain : u.state.store.Gains organization [r] [role] v.state.store) :
    Attempt organization (r :: rs) u w (outcome.map ([role] ++ ·)) (r :: made) (role :: added) := by
  obtain ⟨hbegins, hgains, -, hends⟩ := h
  have hmissing : u.state.store.missing organization (r :: rs) =
      r :: v.state.store.missing organization rs := by
    rw [hgain.missing_of_not_mem hr, Store.missing_cons_of_free hfree]
  refine ⟨?_, hgain.trans hgains, nofun, ?_⟩
  · rw [hmissing]
    exact List.cons_prefix_cons.mpr ⟨rfl, hbegins⟩
  · rcases hends with ⟨hunsteady, fault, rfl⟩ | ⟨hall, rfl⟩
    · exact .inl ⟨fun h => hunsteady (hsteady h), fault, rfl⟩
    · exact .inr ⟨by rw [hmissing, hall], rfl⟩

/-- Wherever an attempt ends, it has got some way. -/
theorem attempt_ensureRoles (rs : List LegacyRole) (hrs : rs.Nodup) (u : Unsteady)
    (hfresh : u.state.FreshAhead (u.state.store.missing organization rs).length) :
    ∃ made added, Attempt organization rs u (u.run (ensureRoles organization rs)).2
      (u.run (ensureRoles organization rs)).1 made added := by
  induction rs generalizing u with
  | nil => exact ⟨[], [], List.nil_prefix, .refl _, fun _ => rfl, .inr ⟨rfl, rfl⟩⟩
  | cons r rs ih =>
      obtain ⟨hr, hrs⟩ := List.nodup_cons.mp hrs
      have hmakes := makes_ensureRole u organization r
      rw [ensureRoles]
      rcases hrun : u.run (ensureRole organization r) with ⟨created, v⟩
      rw [hrun] at hmakes
      cases hmakes with
      | failed hunsteady hstate =>
          rw [Unsteady.run_bind_error hrun]
          exact ⟨[], [], .of_failed hunsteady hstate⟩
      | there hkey hsteady hstate =>
          rw [Store.missing_cons_of_ne hkey, ← hstate] at hfresh
          obtain ⟨made, added, hattempt⟩ := ih hrs v hfresh
          rw [Unsteady.run_bind_ok hrun, Unsteady.run_bind_pure]
          exact ⟨made, added, hattempt.pass hkey hsteady hstate⟩
      | made hfree hsteady hstate =>
          rw [Store.missing_cons_of_free hfree, List.length_cons] at hfresh
          have hone : 1 ≤ (u.state.store.missing organization rs).length + 1 :=
            Nat.le_add_left 1 _
          have hgain : u.state.store.Gains organization [r]
              [r.toRole (u.state.nextId .role) organization] v.state.store := by
            rw [hstate]
            exact hfresh.gains_addTemplate hone r
          have hadded : RecordChange organization u.state ∅ 1
              (u.state.addTemplate organization r) := .newRole rfl rfl hfree
          have hfewer : v.state.FreshAhead (v.state.store.missing organization rs).length := by
            rw [hgain.missing_of_not_mem hr, hstate]
            exact hadded.freshAhead hfresh hone
          obtain ⟨made, added, hattempt⟩ := ih hrs v hfewer
          rw [Unsteady.run_bind_ok hrun, Unsteady.run_bind_pure]
          exact ⟨r :: made, _ :: added, hattempt.make hr hfree hsteady hgain⟩

/-- The organization will have the same in the end, and it has all of it where the attempt
succeeds. -/
theorem Attempt.completed
    (h : Attempt organization LegacyRole.all u v outcome made added) :
    v.state.store.completed organization = u.state.store.completed organization ∧
      ∀ roles, outcome = .ok roles → v.state.store.missing organization LegacyRole.all = [] := by
  obtain ⟨rest, hrest⟩ := h.begins
  obtain ⟨hmissing, hcompleted⟩ := h.gains.completed hrest.symm
  refine ⟨hcompleted, ?_⟩
  intro roles hok
  rcases h.ends with ⟨-, fault, herror⟩ | ⟨hall, -⟩
  · cases herror.symm.trans hok
  · rw [hmissing]
    exact List.append_cancel_left (hrest.trans (hall.symm.trans (List.append_nil _).symm))

end Attempt

/-- The organization's first roles are made, in as many attempts as it takes.  The identifiers that
it needs are fresh.  From one attempt to the next everything but the store may become different. -/
inductive Retried (organization : OrganizationId) : Backend → Backend → Prop
  | done {u v : Unsteady} {roles : List Role} (hfresh : u.state.FreshAhead LegacyRole.all.length)
      (hrun : u.run (Bootstrap.ensureDefaultRoles organization) = (.ok roles, v)) :
      Retried organization u.state v.state
  | again {u v : Unsteady} {fault : Fault} {b c : Backend}
      (hfresh : u.state.FreshAhead LegacyRole.all.length)
      (hrun : u.run (Bootstrap.ensureDefaultRoles organization) = (.error fault, v))
      (hstore : b.store = v.state.store) (h : Retried organization b c) :
      Retried organization u.state c

section Attempts

variable {organization : OrganizationId} {u v : Unsteady} {outcome : Outcome (List Role)}
  {b c : Backend}

theorem exists_attempt
    (hfresh : u.state.FreshAhead (u.state.store.missing organization LegacyRole.all).length)
    (hrun : u.run (Bootstrap.ensureDefaultRoles organization) = (outcome, v)) :
    ∃ made added, Attempt organization LegacyRole.all u v outcome made added := by
  have h := attempt_ensureRoles LegacyRole.all (by decide) u hfresh
  rw [Bootstrap.ensureDefaultRoles] at hrun
  rwa [hrun] at h

theorem Backend.FreshAhead.of_all (h : b.FreshAhead LegacyRole.all.length) :
    b.FreshAhead (b.store.missing organization LegacyRole.all).length :=
  h.mono (List.length_filter_le _ _)

theorem completed_of_ok (hfresh : u.state.FreshAhead LegacyRole.all.length) {roles : List Role}
    (hrun : u.run (Bootstrap.ensureDefaultRoles organization) = (.ok roles, v)) :
    v.state.store.roles.rows.map Role.anonymous = u.state.store.completed organization := by
  obtain ⟨made, added, h⟩ := exists_attempt hfresh.of_all hrun
  obtain ⟨hcompleted, hmissing⟩ := h.completed
  rw [← hcompleted, Store.completed, hmissing roles rfl, List.map_nil, List.append_nil]

/-- It does not matter how many attempts it takes. -/
theorem Retried.eq_completed (h : Retried organization b c) :
    c.store.roles.rows.map Role.anonymous = b.store.completed organization := by
  induction h with
  | done hfresh hrun => exact completed_of_ok hfresh hrun
  | again hfresh hrun hstore _ ih =>
      obtain ⟨made, added, hattempt⟩ := exists_attempt hfresh.of_all hrun
      rw [ih, hstore, hattempt.completed.1]

theorem Backend.FreshAhead.zero (b : Backend) : b.FreshAhead 0 where
  distinct _ _ i hi := absurd hi (by simp)
  role i hi := absurd hi (by simp)
  delegation i hi := absurd hi (by simp)
  override i hi := absurd hi (by simp)

/-- Where no role is missing nothing changes, and a call that succeeds tells of no new role. -/
theorem idle_of_missing_eq_nil
    (hmissing : u.state.store.missing organization LegacyRole.all = [])
    (hrun : u.run (Bootstrap.ensureDefaultRoles organization) = (outcome, v)) :
    v.state = u.state ∧ (outcome = .ok [] ∨ ¬u.Steady ∧ ∃ fault, outcome = .error fault) := by
  have hfresh : u.state.FreshAhead (u.state.store.missing organization LegacyRole.all).length := by
    rw [hmissing]
    exact .zero u.state
  obtain ⟨made, added, h⟩ := exists_attempt hfresh hrun
  have hnone : made = [] := List.prefix_nil.mp (hmissing ▸ h.begins)
  have hadded : added = [] := by
    have hplans := h.gains.made
    rw [hnone] at hplans
    exact List.map_eq_nil_iff.mp hplans
  refine ⟨h.idle hnone, ?_⟩
  rcases h.ends with hfailed | ⟨-, hok⟩
  · exact .inr hfailed
  · exact .inl (hadded ▸ hok)

/-- Whatever calls fail, all roles stay as they are and some that are missing come behind them, as
the templates have them.  A call that succeeds has put in all of them and tells them, and another
one behind it changes nothing.  In how many attempts the roles are made makes no difference but to
their identifiers. -/
theorem Unsteady.first_roles_converge (hfresh : u.state.FreshAhead LegacyRole.all.length)
    (hrun : u.run (Bootstrap.ensureDefaultRoles organization) = (outcome, v)) :
    (∃ made added, made <+: u.state.store.missing organization LegacyRole.all ∧
        u.state.store.Gains organization made added v.state.store ∧
        ∀ roles, outcome = .ok roles →
          made = u.state.store.missing organization LegacyRole.all ∧ roles = added) ∧
      (u.Steady → ∃ roles, outcome = .ok roles) ∧
      (∀ roles, outcome = .ok roles →
        (∀ r : LegacyRole, ∃ role, v.state.store.findRoleByKey organization r.key = some role) ∧
        ∀ (w w' : Unsteady) again, w.state.store = v.state.store →
          w.run (Bootstrap.ensureDefaultRoles organization) = (again, w') →
          w'.state = w.state ∧ (again = .ok [] ∨ ¬w.Steady ∧ ∃ fault, again = .error fault)) ∧
      ∀ roles b c, outcome = .ok roles → b.store = u.state.store → Retried organization b c →
        c.store.roles.rows.map Role.anonymous = v.state.store.roles.rows.map Role.anonymous := by
  obtain ⟨made, added, h⟩ := exists_attempt hfresh.of_all hrun
  refine ⟨⟨made, added, h.begins, h.gains, ?_⟩, ?_, ?_, ?_⟩
  · intro roles hok
    rcases h.ends with ⟨-, fault, herror⟩ | ⟨hall, hadded⟩
    · cases herror.symm.trans hok
    · exact ⟨hall, Except.ok.inj (hok.symm.trans hadded)⟩
  · intro hsteady
    rcases h.ends with ⟨hunsteady, -⟩ | ⟨-, hok⟩
    · exact absurd hsteady hunsteady
    · exact ⟨added, hok⟩
  · intro roles hok
    have hmissing := h.completed.2 roles hok
    refine ⟨fun r => ?_, fun w w' again hstore hagain => ?_⟩
    · have hr : r ∈ LegacyRole.all := by cases r <;> decide
      have hthere := List.filter_eq_nil_iff.mp hmissing r hr
      exact Option.ne_none_iff_exists'.mp (by simpa using hthere)
    · exact idle_of_missing_eq_nil (hstore ▸ hmissing) hagain
  · rintro roles b c rfl hstore hretried
    rw [hretried.eq_completed, hstore, completed_of_ok hfresh hrun]

end Attempts

namespace Sample

/-- Where little is stored, the identifiers to come are fresh. -/
theorem freshAhead_of_little {b : Backend} {n : Nat} (hmint : b.mint = backend.mint)
    (hused : ∀ kind, b.used kind + n < 100)
    (hroles : ∀ role ∈ b.store.roles.rows, role.id.uuid.toNat ≤ b.used .role)
    (hdelegations : b.store.delegations.rows = []) (hoverrides : b.store.overrides.rows = []) :
    b.FreshAhead n := by
  have hvalue : ∀ kind, ∀ i ∈ Set.Ioc (b.used kind) (b.used kind + n),
      (b.mint kind i).uuid.toNat = i := by
    rintro kind i ⟨-, hi⟩
    have hsmall : i < 100 := Nat.lt_of_le_of_lt hi (hused kind)
    rw [hmint]
    exact Nat.mod_eq_of_lt (Nat.lt_trans hsmall (by decide))
  constructor
  · intro kind _ i hi j hj heq
    rw [← hvalue kind i hi, heq, hvalue kind j hj]
  · intro i hi
    refine Table.find?_eq_none.mpr fun hmem => ?_
    obtain ⟨role, hrole, hid⟩ := List.mem_map.mp hmem
    have hle := hroles role hrole
    rw [hid, hvalue .role i hi] at hle
    exact absurd hi.1 (Nat.not_lt.mpr hle)
  · intro i _
    exact Table.find?_eq_none.mpr (by simp [hdelegations])
  · intro i _
    exact Table.find?_eq_none.mpr (by simp [hoverrides])

def uninterrupted : Unsteady := { state := unfounded }

/-- The second template is not looked up. -/
def interrupted : Unsteady where
  state := unfounded
  outages n := if n = 3 then some (.unavailable "find_role_by_key") else none

/-- What was stored by then, and calls that are in order. -/
def resumed : Unsteady where
  state :=
    { backend with
      store := (interrupted.run (Bootstrap.ensureDefaultRoles organization)).2.state.store
      used := fun _ => 10 }

end Sample

open Sample in
/-- The second attempt puts in the three roles that the first one has left out. -/
theorem first_roles_made_in_two_attempts :
    (interrupted.run (Bootstrap.ensureDefaultRoles organization)).1 =
        .error (.unavailable "find_role_by_key") ∧
      resumed.state.store.roles.rows = [LegacyRole.owner.toRole ⟨⟨1⟩⟩ organization] ∧
      (∃ added, (resumed.run (Bootstrap.ensureDefaultRoles organization)).2.state.store.roles.rows =
          resumed.state.store.roles.rows ++ added ∧
        List.Forall₂ (·.IsMadeOf organization) added [.admin, .member, .viewer]) ∧
      Retried organization unfounded
        (resumed.run (Bootstrap.ensureDefaultRoles organization)).2.state ∧
      (resumed.run (Bootstrap.ensureDefaultRoles organization)).2.state.store.roles.rows.map
          Role.anonymous =
        (uninterrupted.run (Bootstrap.ensureDefaultRoles organization)).2.state.store.roles.rows.map
          Role.anonymous := by
  have hfails : (interrupted.run (Bootstrap.ensureDefaultRoles organization)).1 =
      .error (.unavailable "find_role_by_key") := by decide +kernel
  have hstored : resumed.state.store.roles.rows =
      [LegacyRole.owner.toRole ⟨⟨1⟩⟩ organization] := by decide +kernel
  have hfresh : unfounded.FreshAhead LegacyRole.all.length :=
    freshAhead_of_little rfl (fun _ => (by decide : 0 + 4 < 100)) nofun rfl rfl
  have hfresh' : resumed.state.FreshAhead LegacyRole.all.length := by
    have hroles : ∀ role ∈ resumed.state.store.roles.rows, role.id.uuid.toNat ≤ 10 := by
      rw [hstored]
      decide
    exact freshAhead_of_little rfl (fun _ => (by decide : 10 + 4 < 100)) hroles
      (by decide +kernel) (by decide +kernel)
  have hruns : ∀ u : Unsteady, u.run (Bootstrap.ensureDefaultRoles organization) =
      ((u.run (Bootstrap.ensureDefaultRoles organization)).1,
        (u.run (Bootstrap.ensureDefaultRoles organization)).2) := fun _ => rfl
  obtain ⟨⟨made, added, -, hgains, hall⟩, hsucceeds, -⟩ :=
    Unsteady.first_roles_converge hfresh' (hruns resumed)
  obtain ⟨-, hends, -, halike⟩ :=
    Unsteady.first_roles_converge (u := uninterrupted) hfresh (hruns uninterrupted)
  obtain ⟨roles, hroles⟩ := hsucceeds ⟨rfl, fun _ => rfl⟩
  obtain ⟨roles', hroles'⟩ := hends ⟨rfl, fun _ => rfl⟩
  have hmissing : resumed.state.store.missing organization LegacyRole.all =
      [.admin, .member, .viewer] := by decide +kernel
  obtain rfl : made = [.admin, .member, .viewer] := (hall roles hroles).1.trans hmissing
  have hlast : Retried organization resumed.state
      (resumed.run (Bootstrap.ensureDefaultRoles organization)).2.state :=
    .done hfresh' (Prod.ext hroles rfl)
  have hstore : resumed.state.store =
      (interrupted.run (Bootstrap.ensureDefaultRoles organization)).2.state.store := rfl
  have hretried : Retried organization unfounded
      (resumed.run (Bootstrap.ensureDefaultRoles organization)).2.state :=
    .again (u := interrupted) hfresh (Prod.ext hfails rfl) hstore hlast
  exact ⟨hfails, hstored, ⟨added, hgains.rows, hgains.isMadeOf⟩, hretried,
    halike roles' unfounded _ hroles' rfl hretried⟩

end AccessControl

import AccessControl.Proofs.DelegationBound
import AccessControl.Proofs.Histories
import AccessControl.Proofs.Selection
import AccessControl.Proofs.Tenants

/-!
# Forms of a role

A membership names one of the fixed roles, or it names a role that is stored.  It comes to the same
whether it names a fixed role, the role that was made of it when the organization was founded, or a
copy of that, or a copy of a copy: authorization answers everything alike
(`Descends.answers_alike`).

All that a membership's role is good for is its priority and its grants (`Store.roleOf?`).  They go
from the template into the role and from there into every copy (`Descends.roleOf?_eq`), and with
them the rules and the priority of every user stay as they are (`Store.rules_reassign`).
-/

namespace AccessControl

open Service Backend

/-! ## Members with another role -/

/-- The store in which the member has the role instead. -/
def Store.reassign (s : Store) (m : Member) (role : MemberRole) : Store :=
  s.putMember { m with role }

def Backend.reassign (b : Backend) (m : Member) (role : MemberRole) : Backend :=
  { b with store := b.store.reassign m role }

namespace Store

variable {s : Store} {organization : OrganizationId} {user : UserId} {m : Member}
  {role : MemberRole}

theorem findMember_reassign (hmember : s.findMember organization user = some m) (other : UserId) :
    (s.reassign m role).findMember organization other =
      if other = user then some { m with role } else s.findMember organization other := by
  obtain ⟨-, horganization, rfl⟩ := findMember_eq_some.mp hmember
  exact findMember_putMember (m := { m with role }) horganization other

/-- Nothing else is different in the sources of any user's rules. -/
theorem sources_reassign (hmember : s.findMember organization user = some m) (role : MemberRole)
    (other : UserId) :
    ∃ membership held, (s.reassign m role).sources organization other =
      { s.sources organization other with membership, role := held } := by
  rw [sources, sources, findMember_reassign hmember]
  by_cases hsame : other = user
  · rw [if_pos hsame, hsame, hmember]
    exact ⟨_, _, rfl⟩
  · rw [if_neg hsame]
    cases s.findMember organization other <;> exact ⟨_, _, rfl⟩

/-- A role of the same priority and with the same grants does as well. -/
theorem baseRole?_reassign (hmember : s.findMember organization user = some m)
    (hrole : s.roleOf? organization role = s.roleOf? organization m.role) (other : UserId) :
    ((s.reassign m role).sources organization other).baseRole? other organization =
      (s.sources organization other).baseRole? other organization := by
  have hroles : ∀ r, (s.reassign m role).roleOf? organization r = s.roleOf? organization r := by
    intro r
    cases r <;> rfl
  ext base
  rw [baseRole?_eq_some, baseRole?_eq_some]
  simp only [hroles, findMember_reassign hmember]
  by_cases hsame : other = user
  · simp [hsame, hmember, hrole]
  · simp [hsame]

theorem rules_reassign (hmember : s.findMember organization user = some m)
    (hrole : s.roleOf? organization role = s.roleOf? organization m.role) (other : UserId)
    (now : Instant) :
    (s.reassign m role).rules organization other now = s.rules organization other now := by
  have hbase := baseRole?_reassign hmember hrole other
  obtain ⟨membership, held, hsources⟩ := sources_reassign hmember role other
  rw [rules, rules, resolve, resolve, hbase, hsources]
  rfl

theorem priority?_reassign (hmember : s.findMember organization user = some m)
    (hrole : s.roleOf? organization role = s.roleOf? organization m.role) (other : UserId) :
    (s.reassign m role).priority? organization other = s.priority? organization other := by
  rw [priority?, priority?, GrantSources.effectivePriority?, GrantSources.effectivePriority?,
    baseRole?_reassign hmember hrole]

/-- A key is free in an organization when none of its roles has it. -/
theorem findRoleByKey_eq_none {key : RoleKey} :
    s.findRoleByKey organization key = none ↔
      ∀ stored ∈ s.roles.rows, stored.organization = organization → stored.key ≠ key := by
  simp [findRoleByKey, rolesOf]

end Store

/-! ## What authorization answers -/

namespace Authorization

/-- What an operation answers by the rules of the callers and the priorities of the users. -/
def Operation.answer (organization : OrganizationId) (rules : Option UserId → RuleSet)
    (priority : UserId → Option RolePriority) : (op : Operation) → Outcome op.Result
  | ruleSet user => .ok (rules user)
  | authorize user action target => .ok ((rules user).permits action target)
  | explain user action target | decide user _ action target =>
    .ok ((rules user).explain action target)
  | require user _ action target =>
    if (rules (some user)).permits action target then .ok ()
    else .error (.notPermitted user action.name target.resourceType.name organization)
  | capabilities user => .ok (rules user).capabilities
  | effectivePriority user => .ok (priority user)
  | forgetUser _ | forgetOrganization => .ok ()

variable {s : Setting} {b : Backend} {organization : OrganizationId}

theorem finishes_recordDecision (b : Backend) (s : Setting) (r : AuditRecord) :
    Finishes b (recordDecision s r) fun _ _ => True := by
  rw [recordDecision]
  split
  · exact (Audit.finishes_record b s.now r).bind fun _ _ _ => Finishes.pure trivial
  · exact Finishes.pure trivial

/-- Where all calls are in order, authorization answers by the rules and the priorities alone. -/
theorem Operation.run_perform_of_working (hworking : b.broken = []) (op : Operation) :
    (b.run (op.perform s organization)).1 =
      op.answer organization (b.rulesOf s organization) (b.store.priority? organization) := by
  cases op with
  | ruleSet user => exact run_ruleSet_eq hworking user
  | authorize user action target =>
      exact (finishes_by_rules hworking user (·.permits action target)).fst_eq
  | explain user action target =>
      exact (finishes_explain hworking s organization user action target).fst_eq
  | decide user context action target =>
      refine Finishes.fst_eq ((finishes_explain hworking s organization user action target).bind ?_)
      rintro e c rfl
      exact (finishes_recordDecision c s _).bind fun _ _ _ => Finishes.pure rfl
  | require user context action target =>
      obtain ⟨e, c, hexplain, rfl⟩ :=
        finishes_explain hworking s organization (some user) action target
      rw [perform, Authorization.require, run_bind_ok hexplain, answer, RuleSet.permits]
      split
      · rfl
      · obtain ⟨_, d, hrecord, -⟩ := finishes_recordDecision c s _
        rw [refuse, run_bind_ok hrecord]
        rfl
  | capabilities user => exact (finishes_by_rules hworking user (·.capabilities)).fst_eq
  | effectivePriority user =>
      rw [perform, Authorization.effectivePriority, run_bind_ok (run_sources_of_working hworking)]
      rfl
  | forgetUser user => exact Finishes.fst_eq ((finishes_forgetUser b).mono fun _ _ _ => rfl)
  | forgetOrganization =>
      exact Finishes.fst_eq ((finishes_forgetOrganization b).mono fun _ _ _ => rfl)

end Authorization

/-! ## Roles that come of a template -/

theorem LegacyRole.key_injective : Function.Injective LegacyRole.key := by
  intro r r' h
  have hname : r.name = r'.name := congrArg RoleKey.text h
  have hread := congrArg LegacyRole.ofName? hname
  rw [LegacyRole.ofName?_name, LegacyRole.ofName?_name] at hread
  exact Option.some.inj hread

/-- A role that is there after a founding was there before, or is made of a template. -/
theorem Bootstrap.Founding.eq_toRole {organization : OrganizationId} {rs : List LegacyRole}
    {b c : Backend} (h : Founding organization rs b c) {role : Role}
    (hrole : role ∈ c.store.roles.rows) :
    role ∈ b.store.roles.rows ∨ ∃ r id, role = LegacyRole.toRole r id organization := by
  induction h with
  | nil => exact .inl hrole
  | skip _ ih => exact ih hrole
  | @role r rs b c _ _ ih =>
      rcases ih hrole with hadded | hmade
      · rcases Table.mem_put.mp hadded with rfl | ⟨hstored, -⟩
        · exact .inr ⟨r, _, rfl⟩
        · exact .inl hstored
      · exact .inr hmade

/-- The role comes of a template.  It was made of it when the organization was founded, which had no
role of that key, or it is a copy of one that comes of the template.  Beside that anything may
happen as long as the role itself stays as it is. -/
inductive Descends (organization : OrganizationId) (r : LegacyRole) : Backend → RoleId → Prop
  | founded {b : Backend} {role : Role}
      (hfree : b.store.findRoleByKey organization r.key = none)
      (hfound : (b.run (Bootstrap.ensureDefaultRoles organization)).2.store.findRole organization
        role.id = some role) (hkey : role.key = r.key) :
      Descends organization r (b.run (Bootstrap.ensureDefaultRoles organization)).2 role.id
  | copied {b : Backend} {id : RoleId} (s : Setting) (actor : Actor) (copy : RoleCopy)
      {role : Role} (h : Descends organization r b id)
      (hcopied : (b.run (Administration.duplicateRole s actor id copy)).1 = .ok role) :
      Descends organization r (b.run (Administration.duplicateRole s actor id copy)).2 role.id
  | beside {b c : Backend} {id : RoleId} (h : Descends organization r b id)
      (hkept : c.store.findRole organization id = b.store.findRole organization id) :
      Descends organization r c id

section Descends

variable {organization : OrganizationId} {r : LegacyRole} {b : Backend} {id : RoleId}

/-- A role that comes of a template has its priority and its grants. -/
theorem Descends.roleOf?_eq (h : Descends organization r b id) :
    b.store.roleOf? organization (.dynamic id) = b.store.roleOf? organization (.legacy r) := by
  induction h with
  | @founded b role hfree hfound hkey =>
      obtain ⟨hrole, -, horganization⟩ := Store.findRole_eq_some.mp hfound
      rcases (Bootstrap.founding_ensureRoles LegacyRole.all).eq_toRole hrole with
        hold | ⟨r', id, rfl⟩
      · exact absurd hkey (Store.findRoleByKey_eq_none.mp hfree role hold horganization)
      · obtain rfl := LegacyRole.key_injective hkey
        simp only [Store.roleOf?, hfound]
        rfl
  | @copied b id s actor copy role _ hcopied ih =>
      have hperformed :
          (b.run ((Administration.Operation.duplicateRole id copy).perform s actor)).1 = .ok role :=
        hcopied
      have hdone : Administration.RoleDuplicated b s actor id copy role
          (b.run (Administration.duplicateRole s actor id copy)).2.store :=
        Administration.Operation.done_of_perform hperformed
      obtain ⟨source, hsource, hpriority, hgrants⟩ := hdone.source
      obtain ⟨found, hfound, hbase⟩ := Option.map_eq_some_iff.mp ih
      obtain ⟨rfl, rfl⟩ := Store.eq_of_findRole hfound hsource
      have hcopy : BaseRole.ofRole role = BaseRole.ofRole found := by
        rw [BaseRole.ofRole, BaseRole.ofRole, hpriority, hgrants]
      have hstored := Store.findRole_putRole_self b.store role
      rw [← hdone.store, hdone.organization] at hstored
      simp only [Store.roleOf?, hstored]
      exact congrArg some (hcopy.trans hbase)
  | beside _ hkept ih =>
      simp only [Store.roleOf?, hkept]
      exact ih

/-- A member may as well have the role that comes of the template as the fixed role itself.
Without a cache authorization answers everything alike about every user, by the same rules and
priorities. -/
theorem Descends.answers_alike (h : Descends organization r b id) {user : UserId} {m : Member}
    (hmember : b.store.findMember organization user = some m) (hlegacy : m.role = .legacy r)
    (hworking : b.broken = []) {s : Setting} (hcache : s.cacheTtl = none)
    (op : Authorization.Operation) :
    ((b.reassign m (.dynamic id)).run (op.perform s organization)).1 =
        (b.run (op.perform s organization)).1 ∧
      (b.run (op.perform s organization)).1 =
        op.answer organization (b.rulesOf s organization) (b.store.priority? organization) := by
  let c := b.reassign m (.dynamic id)
  have hrole : b.store.roleOf? organization (.dynamic id) =
      b.store.roleOf? organization m.role := by rw [h.roleOf?_eq, hlegacy]
  have hrules : c.rulesOf s organization = b.rulesOf s organization := by
    funext caller
    cases caller with
    | none => rfl
    | some other =>
        rw [rulesOf, rulesOf, rules_of_no_cache hcache, rules_of_no_cache hcache]
        exact Store.rules_reassign hmember hrole other s.now
  have hpriority : c.store.priority? organization = b.store.priority? organization :=
    funext fun other => Store.priority?_reassign hmember hrole other
  have hworking' : c.broken = [] := hworking
  have hanswer : (b.run (op.perform s organization)).1 =
      op.answer organization (b.rulesOf s organization) (b.store.priority? organization) :=
    op.run_perform_of_working hworking
  refine ⟨?_, hanswer⟩
  rw [hanswer, ← hrules, ← hpriority]
  exact op.run_perform_of_working hworking'

end Descends

namespace Sample

/-- The owner makes a copy of a role. -/
def copyOf (id : RoleId) (copy : RoleCopy) : Service Role :=
  Administration.duplicateRole { now := ⟨0⟩ } (actor owner) id copy

def substitute : RoleCopy := { key := "substitute", name := "Substitute" }

def trainee : RoleCopy := { key := "trainee", name := "Trainee" }

def substituted : Backend := (founded.run (copyOf ⟨⟨2⟩⟩ substitute)).2

/-- The administrators' role has been copied, and so has the copy. -/
def trained : Backend := (substituted.run (copyOf ⟨⟨5⟩⟩ trainee)).2

/-- A role as a copy of the administrators' role is. -/
def likeAdmin (id : RoleId) (key : RoleKey) (name : String) : Role :=
  { LegacyRole.admin.toRole id organization with key, name, isSystem := false, isEditable := true }

end Sample

open Sample in
/-- The administrator may as well have the copy of the copy. -/
theorem trainee_answered_as_admin :
    Descends organization .admin trained ⟨⟨6⟩⟩ ∧
      trained.store.findMember organization admin = some (memberAs admin (.legacy .admin)) ∧
      ((trained.reassign (memberAs admin (.legacy .admin)) (.dynamic ⟨⟨6⟩⟩)).run
          (Authorization.authorize { now := ⟨0⟩ } organization (some admin) .destroy
            (.ofType .task))).1 = .ok true := by
  have hfounded : Descends organization .admin founded ⟨⟨2⟩⟩ :=
    @Descends.founded organization .admin unfounded (LegacyRole.admin.toRole ⟨⟨2⟩⟩ organization)
      (by decide +kernel) (by decide +kernel) rfl
  have hsubstitute : (founded.run (copyOf ⟨⟨2⟩⟩ substitute)).1 =
      .ok (likeAdmin ⟨⟨5⟩⟩ ⟨"substitute", by decide⟩ "Substitute") := by decide +kernel
  have htrainee : (substituted.run (copyOf ⟨⟨5⟩⟩ trainee)).1 =
      .ok (likeAdmin ⟨⟨6⟩⟩ ⟨"trainee", by decide⟩ "Trainee") := by decide +kernel
  have htrained : Descends organization .admin trained ⟨⟨6⟩⟩ :=
    .copied _ _ _ (.copied _ _ _ hfounded hsubstitute) htrainee
  have hmember : trained.store.findMember organization admin =
      some (memberAs admin (.legacy .admin)) := by decide +kernel
  have hworking : trained.broken = [] := by decide +kernel
  obtain ⟨halike, hanswer⟩ := htrained.answers_alike hmember rfl hworking (s := { now := ⟨0⟩ }) rfl
    (.authorize (some admin) .destroy (.ofType .task))
  refine ⟨htrained, hmember, halike.trans (hanswer.trans ?_)⟩
  decide +kernel

end AccessControl

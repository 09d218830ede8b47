import AccessControl.Authorization
import AccessControl.Backend
import AccessControl.Bootstrap
import AccessControl.Proofs.Changes

/-!
# What a store says about a user

The services gather what is stored about a user call by call.  Here the same is read off a store
at once: the sources of the user's rules, the priority of the user's own role, the rule set at a
time, and the key of the role that a member holds.

`Backend.rules` is the rule set by which a service decides.  With a cache that is the one that was
remembered, as long as there is one, and else the one that the store gives.
-/

namespace AccessControl

namespace Store

/-- A delegation with the role that it hands over. -/
def access (s : Store) (organization : OrganizationId) (d : Delegation) : DelegatedAccess :=
  ⟨d, d.role.bind (s.findRole organization)⟩

/-- All that is stored about a user; of one who is no member, nothing. -/
def sources (s : Store) (organization : OrganizationId) (user : UserId) : GrantSources :=
  match s.findMember organization user with
  | none => {}
  | some m =>
    { membership := some m
      role := m.role.roleId?.bind (s.findRole organization)
      teams := s.teams organization user
      delegations := (s.receivedDelegations organization user).map (s.access organization)
      overrides := s.receivedOverrides organization user }

/-- The priority of the user's own role, if the user is an active member with a role. -/
def priority? (s : Store) (organization : OrganizationId) (user : UserId) : Option RolePriority :=
  (s.sources organization user).effectivePriority? user organization

/-- The rule set of a user at a time. -/
def rules (s : Store) (organization : OrganizationId) (user : UserId) (now : Instant) : RuleSet :=
  resolve (some user) organization (s.sources organization user) now

/-- A priority that does not exceed the user's own. -/
def Within (s : Store) (organization : OrganizationId) (user : UserId) (priority : RolePriority) :
    Prop :=
  ∃ own, s.priority? organization user = some own ∧ priority ≤ own

/-- What counts of the role that a member holds, if the role is there. -/
def roleOf? (s : Store) (organization : OrganizationId) : MemberRole → Option BaseRole
  | .legacy r => some (.ofLegacy r)
  | .dynamic id => (s.findRole organization id).map .ofRole

theorem organization_rules (s : Store) (organization : OrganizationId) (user : UserId)
    (now : Instant) : (s.rules organization user now).organization = organization := by
  rw [rules, resolve]
  cases (s.sources organization user).baseRole? user organization <;> rfl

/-- The key of a member's role, empty where the role is missing. -/
def roleKey (s : Store) (organization : OrganizationId) : MemberRole → String
  | .legacy r => r.name
  | .dynamic id => ((s.findRole organization id).map (·.key.text)).getD ""

/-- A member as a resource, which is what checks about the membership are asked about. -/
def memberResource (s : Store) (m : Member) (organization : OrganizationId) (user : UserId) :
    Resource :=
  .ofMembership organization user (s.roleKey organization m.role)

/-! ## What is stored about the user -/

section Received

variable {s : Store} {organization : OrganizationId} {user : UserId}

theorem exists_of_mem_delegations {access : DelegatedAccess}
    (h : access ∈ (s.sources organization user).delegations) :
    ∃ d ∈ s.delegations.rows, d.organization = organization ∧ access = s.access organization d := by
  rw [sources] at h
  cases hmember : s.findMember organization user with
  | none =>
      rw [hmember] at h
      cases h
  | some m =>
      rw [hmember] at h
      obtain ⟨d, hd, rfl⟩ := List.mem_map.mp h
      obtain ⟨hmem, hreceived⟩ := List.mem_filter.mp hd
      simp only [Bool.and_eq_true, decide_eq_true_eq] at hreceived
      exact ⟨d, hmem, hreceived.1.1, rfl⟩

theorem mem_of_mem_overrides {o : Override}
    (h : o ∈ (s.sources organization user).overrides) :
    o ∈ s.overrides.rows ∧ o.organization = organization := by
  rw [sources] at h
  cases hmember : s.findMember organization user with
  | none =>
      rw [hmember] at h
      cases h
  | some m =>
      rw [hmember] at h
      obtain ⟨hmem, hreceived⟩ := List.mem_filter.mp h
      simp only [Bool.and_eq_true, decide_eq_true_eq] at hreceived
      exact ⟨hmem, hreceived.1.1⟩

end Received

/-! ## The member's own role -/

section OwnRole

variable {s t : Store} {organization : OrganizationId} {user : UserId}

theorem matching?_findRole {id : RoleId} :
    Role.matching? (s.findRole organization id) id organization = s.findRole organization id := by
  cases hrole : s.findRole organization id with
  | none => rfl
  | some role =>
      obtain ⟨-, hid, horganization⟩ := findRole_eq_some.mp hrole
      simp [Role.matching?, Option.filter_some, hid, horganization]

/-- The base role of a user is the role of an active member. -/
theorem baseRole?_eq_some {base : BaseRole} :
    (s.sources organization user).baseRole? user organization = some base ↔
      ∃ m, s.findMember organization user = some m ∧ m.active = true ∧
        s.roleOf? organization m.role = some base := by
  rw [sources]
  cases hmember : s.findMember organization user with
  | none => simp [GrantSources.baseRole?]
  | some m =>
      obtain ⟨-, horganization, huser⟩ := findMember_eq_some.mp hmember
      cases hactive : m.active with
      | false => simp [GrantSources.baseRole?, Option.filter_some, Member.isActiveFor, hactive]
      | true =>
          have hcounts : m.isActiveFor user organization = true := by
            simp [Member.isActiveFor, hactive, horganization, huser]
          cases hrole : m.role with
          | legacy r =>
              simp [GrantSources.baseRole?, Option.filter_some, hcounts, hactive, hrole, roleOf?]
          | dynamic id =>
              simp [GrantSources.baseRole?, Option.filter_some, hcounts, hactive, hrole, roleOf?,
                MemberRole.roleId?, matching?_findRole]

/-- The priority of a user is that of the role of an active member. -/
theorem priority?_eq_some {priority : RolePriority} :
    s.priority? organization user = some priority ↔
      ∃ m base, s.findMember organization user = some m ∧ m.active = true ∧
        s.roleOf? organization m.role = some base ∧ base.priority = priority := by
  rw [priority?, GrantSources.effectivePriority?, Option.map_eq_some_iff]
  constructor
  · rintro ⟨base, hbase, rfl⟩
    obtain ⟨m, hmember, hactive, hrole⟩ := baseRole?_eq_some.mp hbase
    exact ⟨m, base, hmember, hactive, hrole, rfl⟩
  · rintro ⟨m, base, hmember, hactive, hrole, rfl⟩
    exact ⟨base, baseRole?_eq_some.mpr ⟨m, hmember, hactive, hrole⟩, rfl⟩

end OwnRole

end Store

namespace Backend

/-- The rule set of a user that is remembered, where the cache is used and answers. -/
def remembered? (b : Backend) (s : Setting) (organization : OrganizationId) (user : UserId) :
    Option RuleSet :=
  match s.ttl?, b.outage? (.cachedRules organization user) with
  | some _, none => b.cache.get organization user
  | _, _ => none

/-- The rule set by which the services decide about a user. -/
def rules (b : Backend) (s : Setting) (organization : OrganizationId) (user : UserId) : RuleSet :=
  (b.remembered? s organization user).getD (b.store.rules organization user s.now)

/-- The rule set by which the services decide about a caller. -/
def rulesOf (b : Backend) (s : Setting) (organization : OrganizationId) : Option UserId → RuleSet
  | none => guestRuleSet organization
  | some user => b.rules s organization user

theorem ttl?_pos {s : Setting} {ttl : Nat} (h : s.ttl? = some ttl) : 0 < ttl := by
  rw [Setting.ttl?, Option.filter_eq_some_iff] at h
  exact of_decide_eq_true h.2

theorem ttl?_eq_none {s : Setting} (h : s.cacheTtl = none) : s.ttl? = none := by
  simp [Setting.ttl?, h]

/-- Without a cache the services decide by what is stored. -/
theorem rules_of_no_cache {b : Backend} {s : Setting} (h : s.cacheTtl = none)
    (organization : OrganizationId) (user : UserId) :
    b.rules s organization user = b.store.rules organization user s.now := by
  simp [rules, remembered?, ttl?_eq_none h]

end Backend

/-! ## A small organization -/

namespace Sample

def organization : OrganizationId := ⟨⟨1⟩⟩

def owner : UserId := ⟨⟨1⟩⟩

def admin : UserId := ⟨⟨2⟩⟩

def viewer : UserId := ⟨⟨3⟩⟩

def roleId : LegacyRole → RoleId
  | .owner => ⟨⟨1⟩⟩
  | .admin => ⟨⟨2⟩⟩
  | .member => ⟨⟨3⟩⟩
  | .viewer => ⟨⟨4⟩⟩

def memberAs (user : UserId) (role : MemberRole) : Member :=
  { user, organization, active := true, role }

/-- The four roles of the templates, an owner, an administrator and a viewer. -/
def store : Store where
  members := ⟨[memberAs owner (.legacy .owner), memberAs admin (.dynamic (roleId .admin)),
    memberAs viewer (.legacy .viewer)], by decide⟩
  roles := ⟨LegacyRole.all.map fun r => r.toRole (roleId r) organization, by decide⟩

def backend : Backend where
  store := store
  cache := ⟨.empty⟩
  wall := ⟨0⟩
  mint _ n := ⟨⟨n⟩⟩

/-- Members with fixed roles, and no roles yet. -/
def unfounded : Backend :=
  { backend with
    store := { members := ⟨[memberAs owner (.legacy .owner), memberAs admin (.legacy .admin)],
      by decide⟩ } }

def founded : Backend := (unfounded.run (Bootstrap.ensureDefaultRoles organization)).2

def actor (user : UserId) : Actor := { user, organization }

end Sample

end AccessControl

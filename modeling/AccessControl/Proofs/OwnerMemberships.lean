import AccessControl.Proofs.Layers
import AccessControl.Proofs.Runs

/-!
# Owners are safe from everybody below their level

In an organization that has no other roles than those of the templates, nobody below the owners'
level can change the role of an owner or make anybody an owner.

The invariant is about what no rule set of such a user ever grants (`Guarded`): the changes of an
owner's membership, and anything but reading about roles.  The roles of the templates do not grant
it.  Delegated permissions are held without conditions by the one who hands them over, delegated
roles are not above the priority of that one, and whoever grants an override on a resource may do
there all that the override is about, so no delegation and no override can be the first to grant
it.  Nothing that is stored later on can therefore get behind the denials of the administrators'
level.
-/

namespace AccessControl

/-! ## The roles of the templates -/

namespace LegacyRole

/-- Below the owners' level the templates grant nothing but reading on roles, and below the
administrators' level nothing but reading on memberships. -/
theorem permission_of_mem_grants {r : LegacyRole} (hr : r ≠ .owner) {g : RoleGrant}
    (h : g ∈ r.grants) :
    ∃ p, g.permission.resolve? = some p ∧ (p.action = .read ∨
      p.resourceType ≠ .role ∧ (r = .admin ∨ p.resourceType ≠ .membership)) := by
  have hread : ∀ {t : ResourceType}, g = .unconditional ⟨t, .read⟩ →
      ∃ p, g.permission.resolve? = some p ∧ (p.action = .read ∨
        p.resourceType ≠ .role ∧ (r = .admin ∨ p.resourceType ≠ .membership)) := by
    rintro t rfl
    exact ⟨⟨t, .read⟩, Permission.resolve?_stored _, .inl rfl⟩
  cases r with
  | owner => exact absurd rfl hr
  | admin =>
      rcases List.mem_append.mp h with h | h
      · obtain ⟨t, ht, rfl⟩ := List.mem_map.mp h
        have htypes := (List.mem_filter.mp ht).2
        simp only [decide_eq_true_eq] at htypes
        exact ⟨⟨t, .manage⟩, Permission.resolve?_stored _, .inr ⟨htypes.2, .inl rfl⟩⟩
      · simp only [List.mem_cons, List.not_mem_nil, or_false] at h
        rcases h with h | rfl | h
        · exact hread h
        · refine ⟨⟨.organization, .update⟩, Permission.resolve?_stored _, .inr ⟨?_, .inl rfl⟩⟩
          rintro ⟨⟩
        · exact hread h
  | member =>
      rcases List.mem_append.mp h with h | h
      · rcases List.mem_append.mp h with h | h
        · obtain ⟨t, -, h⟩ := List.mem_map.mp h
          exact hread h.symm
        · obtain ⟨t, ht, rfl⟩ := List.mem_map.mp h
          refine ⟨⟨t, .create⟩, Permission.resolve?_stored _, .inr ⟨?_, .inr ?_⟩⟩
          · rintro rfl
            exact absurd ht (by decide)
          · rintro rfl
            exact absurd ht (by decide)
      · simp only [List.mem_cons, List.not_mem_nil, or_false] at h
        rcases h with rfl | rfl
        · exact ⟨⟨.task, .update⟩, Permission.resolve?_stored _, .inr (by decide)⟩
        · exact ⟨⟨.pomodoroSession, .manage⟩, Permission.resolve?_stored _, .inr (by decide)⟩
  | viewer =>
      obtain ⟨t, -, h⟩ := List.mem_map.mp h
      exact hread h.symm

end LegacyRole

/-! ## What nobody below the owners' level is granted -/

/-- A change of the membership of an owner, or anything but reading about roles. -/
inductive Guarded (organization : OrganizationId) (owner : UserId → Prop) : Action → Target → Prop
  | membership {action : Action} {user : UserId} (haction : action ∈ protectedActions)
      (howner : owner user) :
      Guarded organization owner action (.resource (.ofMembership organization user ownerRoleKey))
  | role {action : Action} {target : Target} (haction : action ≠ .read)
      (htype : target.resourceType = .role) : Guarded organization owner action target

/-- A list of rules that grants none of this. -/
def Withholds (organization : OrganizationId) (owner : UserId → Prop) (rules : List Rule) : Prop :=
  ∀ action target, Guarded organization owner action target →
    verdict? rules action target ≠ some .grant

section Withholds

variable {organization : OrganizationId} {owner : UserId → Prop}

theorem ownerProtected_ofMembership {action : Action} (haction : action ∈ protectedActions)
    (user : UserId) :
    OwnerProtected action (.resource (.ofMembership organization user ownerRoleKey)) :=
  ⟨haction, _, rfl, rfl, rfl⟩

theorem cataloged_of_mem_protectedActions {action : Action} (h : action ∈ protectedActions) :
    (⟨.membership, action⟩ : Permission).isCataloged = true := by
  revert action
  decide

theorem isOwner_of_ne {r : LegacyRole} (hr : r ≠ .owner) :
    (BaseRole.ofLegacy r).priority.isOwner = false := by
  cases r with
  | owner => exact absurd rfl hr
  | _ => rfl

theorem isAdmin_of_ne {r : LegacyRole} (hr : r ≠ .owner) (hne : r ≠ .admin) :
    (BaseRole.ofLegacy r).priority.isAdmin = false := by
  cases r with
  | owner => exact absurd rfl hr
  | admin => exact absurd rfl hne
  | _ => rfl

theorem ne_read_of_mem_protectedActions {action : Action} (h : action ∈ protectedActions) :
    action ≠ .read := by
  rintro rfl
  exact absurd h (by decide)

/-- A permission that covers something guarded holds something guarded, and that within the
organization. -/
theorem Guarded.of_covers {p : Permission} {action : Action} {target : Target}
    (h : Guarded organization owner action target) (hcovers : p.action.covers action = true)
    (htype : p.resourceType = target.resourceType) :
    ∃ action' ∈ p.coveredActions, ∃ target', target'.resourceType = p.resourceType ∧
      target'.within organization = true ∧ Guarded organization owner action' target' := by
  cases h with
  | membership haction howner =>
      refine ⟨action, ?_, _, htype.symm, by simp [Target.within, Resource.ofMembership],
        .membership haction howner⟩
      refine Permission.mem_coveredActions hcovers ?_
      rw [htype]
      exact cataloged_of_mem_protectedActions haction
  | role haction hrole =>
      have hread : p.action ≠ .read := by
        intro hread
        rw [hread, Action.covers_iff] at hcovers
        rcases hcovers with hcovers | hcovers
        · cases hcovers
        · exact haction hcovers.symm
      exact ⟨p.action, p.action_mem_coveredActions, .ofType .role, (htype.trans hrole).symm, rfl,
        .role hread rfl⟩

/-- A template below the owners' level decides nothing about these types, except for that of the
administrators, which is about memberships. -/
theorem verdict?_roleRules_eq_none {b : Bearer} {grantSource escalationSource : RuleSource}
    {r : LegacyRole} (hr : r ≠ .owner) {action : Action} {target : Target}
    (haction : action ≠ .read)
    (htype : target.resourceType = .role ∨ target.resourceType = .membership ∧ r ≠ .admin) :
    verdict? (b.roleRules grantSource escalationSource (.ofLegacy r)) action target = none := by
  have hgrants : verdict? (r.grants.filterMap (b.grantRule? grantSource)) action target = none := by
    refine Bearer.verdict?_grants_of_forall ?_
    intro g hg p hp hcovers hsame
    obtain ⟨p', hp', h⟩ := LegacyRole.permission_of_mem_grants hr hg
    obtain rfl : p = p' := Option.some.inj (hp.symm.trans hp')
    rcases h with hread | ⟨hrole, hadmin⟩
    · rw [hread, Action.covers_iff] at hcovers
      rcases hcovers with h | h
      · cases h
      · exact haction h.symm
    · rcases htype with htype | ⟨htype, hne⟩
      · exact hrole (hsame.trans htype)
      · rcases hadmin with hadmin | hmembership
        · exact hne hadmin
        · exact hmembership (hsame.trans htype)
  have hescalation : verdict? (b.escalationRules escalationSource (BaseRole.ofLegacy r).priority)
      action target = none := by
    refine Bearer.verdict?_escalationRules_of_below (isOwner_of_ne hr) ?_
    rcases htype with htype | ⟨-, hne⟩
    · rw [htype]
      refine .inr ?_
      rintro ⟨⟩
    · exact .inl (isAdmin_of_ne hr hne)
  rw [Bearer.roleRules, verdict?_append, hescalation]
  exact hgrants

/-- A template below the owners' level withholds it, whether it is held or delegated. -/
theorem withholds_roleRules {r : LegacyRole} (hr : r ≠ .owner) (b : Bearer)
    (grantSource escalationSource : RuleSource) :
    Withholds organization owner (b.roleRules grantSource escalationSource (.ofLegacy r)) := by
  intro action target hguarded
  cases hguarded with
  | membership haction howner =>
      by_cases hadmin : r = .admin
      · -- The denials of the administrators' level stand behind their grants.
        have hlevel : (BaseRole.ofLegacy r).priority.isAdmin = true := by
          rw [hadmin]
          rfl
        intro hgrant
        have hdeny := hgrant.symm.trans (Bearer.verdict?_roleRules_eq_deny.mpr
          ⟨hlevel, isOwner_of_ne hr, ownerProtected_ofMembership haction _⟩)
        cases hdeny
      · rw [verdict?_roleRules_eq_none hr (ne_read_of_mem_protectedActions haction)
          (.inr ⟨rfl, hadmin⟩)]
        simp
  | role haction htype =>
      rw [verdict?_roleRules_eq_none hr haction (.inl htype)]
      simp

end Withholds

/-! ## Owners and templates -/

namespace Store

/-- All roles of the organization are made from the templates, as its first ones are
(`Bootstrap.keeping_ensureDefaultRoles`). -/
def FromTemplates (s : Store) (organization : OrganizationId) : Prop :=
  ∀ id role, s.findRole organization id = some role →
    ∃ r : LegacyRole, role = r.toRole id organization

/-- The user is a member, active or not, under the key of the owners' role. -/
def IsOwner (s : Store) (organization : OrganizationId) (user : UserId) : Prop :=
  ∃ m, s.findMember organization user = some m ∧ s.roleKey organization m.role = ownerRoleKey

end Store

/-! ## The roles of a new organization -/

namespace Bootstrap

open Service

variable {organization : OrganizationId}

theorem fromTemplates_createRole {s t : Store} {r : LegacyRole} {id : RoleId}
    (h : s.FromTemplates organization)
    (hcreated : s.createRole (r.toRole id organization) = .ok t) :
    t.FromTemplates organization := by
  rw [(Store.createRole_eq_ok.mp hcreated).2]
  intro id' role hrole
  obtain ⟨hmem, hid, horganization⟩ := Store.findRole_eq_some.mp hrole
  rcases Table.mem_put.mp hmem with rfl | ⟨hmem, -⟩
  · subst hid
    exact ⟨r, rfl⟩
  · exact h id' role (Store.findRole_eq_some.mpr ⟨hmem, hid, horganization⟩)

theorem keeping_ensureRole (r : LegacyRole) :
    Keeping (·.FromTemplates organization) (ensureRole organization r) := by
  refine (keeping_ask _ fun _ hb => hb).bind fun found => ?_
  cases found with
  | some role => exact Keeping.pure
  | none =>
      refine (keeping_ask _ fun _ hb => hb).bind fun id => ?_
      refine (keeping_ask (.createRole (r.toRole id organization)) fun b hb => ?_).bind
        fun _ => Keeping.pure
      rw [Backend.serve]
      cases hcreated : b.store.createRole (r.toRole id organization) with
      | error fault => exact hb
      | ok store => exact fromTemplates_createRole hb hcreated

/-- The roles that an organization starts with are those of the templates. -/
theorem keeping_ensureDefaultRoles :
    Keeping (·.FromTemplates organization) (ensureDefaultRoles organization) := by
  have hall : ∀ rs : List LegacyRole,
      Keeping (·.FromTemplates organization) (ensureRoles organization rs) := by
    intro rs
    induction rs with
    | nil => exact Keeping.pure
    | cons r rs ih => exact (keeping_ensureRole r).bind fun _ => ih.bind fun _ => Keeping.pure
  exact hall LegacyRole.all

end Bootstrap

/-! ## The invariant -/

/-- The owners are as in the beginning, and nothing that is stored grants what is guarded. -/
structure OwnersKept (start : Store) (organization : OrganizationId) (store : Store) : Prop where
  roles : ∀ id, store.findRole organization id = start.findRole organization id
  owners : ∀ user m, start.roleKey organization m.role = ownerRoleKey →
    (store.findMember organization user = some m ↔ start.findMember organization user = some m)
  delegations : ∀ d ∈ store.delegations.rows, d.organization = organization →
    ∀ b : Bearer, b.organization = organization →
      Withholds organization (start.IsOwner organization)
        (b.delegationRules (start.access organization d))
  overrides : ∀ o ∈ store.overrides.rows, o.organization = organization →
    ∀ b : Bearer, b.organization = organization →
      Withholds organization (start.IsOwner organization) (b.overrideRule? o).toList

/-- The actor is of the organization, has no priority or one below the owners' level, and decisions
are not remembered. -/
structure BelowOwners (organization : OrganizationId) (b : Backend) (act : Act) : Prop where
  home : act.actor.organization = organization
  below : ∀ own, b.store.priority? organization act.actor.user = some own → own < .owner
  uncached : act.setting.cacheTtl = none

namespace OwnersKept

variable {start store : Store} {organization : OrganizationId}

theorem access (h : OwnersKept start organization store) (d : Delegation) :
    store.access organization d = start.access organization d := by
  rw [Store.access, Store.access, funext h.roles]

theorem roleKey (h : OwnersKept start organization store) (r : MemberRole) :
    store.roleKey organization r = start.roleKey organization r := by
  cases r with
  | legacy r => rfl
  | dynamic id => simp only [Store.roleKey, h.roles]

/-- A role below the owners' level is a template below it. -/
theorem template_of_below (h : OwnersKept start organization store)
    (htemplates : start.FromTemplates organization) {id : RoleId} {role : Role}
    (hrole : store.findRole organization id = some role) (hbelow : role.priority < .owner) :
    ∃ r : LegacyRole, r ≠ .owner ∧ role = r.toRole id organization := by
  obtain ⟨r, rfl⟩ := htemplates id role ((h.roles id).symm.trans hrole)
  refine ⟨r, ?_, rfl⟩
  rintro rfl
  exact absurd hbelow (Nat.lt_irrefl _)

/-- The base role of a user below the owners' level is a template below it. -/
theorem baseRole_of_below (h : OwnersKept start organization store)
    (htemplates : start.FromTemplates organization) {user : UserId} {base : BaseRole}
    (hbase : (store.sources organization user).baseRole? user organization = some base)
    (hbelow : base.priority < .owner) : ∃ r : LegacyRole, r ≠ .owner ∧ base = .ofLegacy r := by
  obtain ⟨m, -, -, hrole⟩ := Store.baseRole?_eq_some.mp hbase
  cases hm : m.role with
  | legacy r =>
      rw [hm] at hrole
      obtain rfl : BaseRole.ofLegacy r = base := Option.some.inj hrole
      refine ⟨r, ?_, rfl⟩
      rintro rfl
      exact absurd hbelow (Nat.lt_irrefl _)
  | dynamic id =>
      rw [hm] at hrole
      obtain ⟨role, hfound, rfl⟩ := Option.map_eq_some_iff.mp hrole
      obtain ⟨r, hr, rfl⟩ := h.template_of_below htemplates hfound hbelow
      exact ⟨r, hr, rfl⟩

/-- Nobody below the owners' level is granted what is guarded. -/
theorem withholds_rules (h : OwnersKept start organization store)
    (htemplates : start.FromTemplates organization) {user : UserId}
    (hbelow : ∀ own, store.priority? organization user = some own → own < .owner) (now : Instant) :
    Withholds organization (start.IsOwner organization)
      (store.rules organization user now).rules := by
  intro action target hguarded
  cases hbase : (store.sources organization user).baseRole? user organization with
  | none =>
      -- Guests only learn that the organization exists.
      rw [Store.rules, resolve]
      simp only [hbase]
      refine verdict?_ne_grant_of_forall ?_
      intro rule hrule happlies
      obtain rfl := List.mem_singleton.mp hrule
      have htype : ResourceType.organization = target.resourceType :=
        of_decide_eq_true (Rule.includes_of_applies happlies)
      cases hguarded with
      | membership => cases htype
      | role _ hrole => cases htype.trans hrole
  | some base =>
      have hpriority : store.priority? organization user = some base.priority := by
        rw [Store.priority?, GrantSources.effectivePriority?, hbase]
        rfl
      obtain ⟨r, hr, rfl⟩ := h.baseRole_of_below htemplates hbase (hbelow _ hpriority)
      rw [Store.rules, resolve]
      simp only [hbase]
      refine Bearer.verdict?_memberRules_ne_grant ?_ ?_ ?_
      · exact withholds_roleRules hr _ _ _ action target hguarded
      · intro access haccess
        obtain ⟨d, hd, hd', rfl⟩ := Store.exists_of_mem_delegations haccess
        rw [h.access]
        exact h.delegations d hd hd' _ rfl action target hguarded
      · intro o ho
        obtain ⟨ho, ho'⟩ := Store.mem_of_mem_overrides ho
        exact h.overrides o ho ho' _ rfl action target hguarded

/-- So no requirement of what is guarded is met by an actor below the owners' level. -/
theorem not_permits (h : OwnersKept start organization store)
    (htemplates : start.FromTemplates organization) {user : UserId}
    (hbelow : ∀ own, store.priority? organization user = some own → own < .owner) {now : Instant}
    {action : Action} {target : Target}
    (hguarded : Guarded organization (start.IsOwner organization) action target) :
    (store.rules organization user now).permits action target ≠ true := by
  have hverdict := h.withholds_rules htemplates hbelow now action target hguarded
  rw [RuleSet.not_permits_of_verdict? hverdict]
  simp

end OwnersKept

/-! ## One change -/

section Change

open Administration

variable {start : Store} {organization : OrganizationId} {b : Backend} {act : Act} {store : Store}

/-- A requirement that an actor below the owners' level meets is not about what is guarded. -/
theorem BelowOwners.not_guarded (hact : BelowOwners organization b act)
    (h : OwnersKept start organization b.store) (htemplates : start.FromTemplates organization)
    {action : Action} {target : Target}
    (hpermitted : (b.rules act.setting act.actor.organization act.actor.user).permits action
      target = true) :
    ¬Guarded organization (start.IsOwner organization) action target := by
  intro hguarded
  rw [Backend.rules_of_no_cache hact.uncached, hact.home] at hpermitted
  exact h.not_permits htemplates hact.below hguarded hpermitted

/-- A role of a priority within the actor's own is a template below the owners' level. -/
theorem BelowOwners.template_of_within (hact : BelowOwners organization b act)
    (h : OwnersKept start organization b.store) (htemplates : start.FromTemplates organization)
    {id : RoleId} {role : Role} (hrole : b.store.findRole act.actor.organization id = some role)
    (hwithin : b.store.Within act.actor.organization act.actor.user role.priority) :
    ∃ r : LegacyRole, r ≠ .owner ∧ role = r.toRole id organization := by
  rw [hact.home] at hrole hwithin
  obtain ⟨own, hown, hle⟩ := hwithin
  exact h.template_of_below htemplates hrole (Nat.lt_of_le_of_lt hle (hact.below own hown))

/-- Nobody below the owners' level does anything but reading with roles. -/
theorem BelowOwners.not_mayOnRoles (hact : BelowOwners organization b act)
    (h : OwnersKept start organization b.store) (htemplates : start.FromTemplates organization)
    {action : Action} (haction : action ≠ .read) :
    ¬MayOnRoles b act.setting act.actor action := by
  intro hpermitted
  exact hact.not_guarded h htemplates hpermitted (.role haction rfl)

namespace OwnersKept

/-- Another role goes to a member who is no owner, and it does not make an owner. -/
theorem of_roleAssigned (h : OwnersKept start organization b.store)
    (htemplates : start.FromTemplates organization) (hact : BelowOwners organization b act)
    {user : UserId} {id : RoleId} {m : Member}
    (hassigned : RoleAssigned b act.setting act.actor user id m store) :
    OwnersKept start organization store := by
  obtain ⟨stored, hstored, rfl, hpermitted⟩ := hassigned.member
  obtain ⟨role, hrole, hwithin⟩ := hassigned.role
  obtain ⟨r, hr, rfl⟩ := hact.template_of_within h htemplates hrole hwithin
  have hnotGuarded := hact.not_guarded h htemplates hpermitted
  rw [hact.home] at hstored hrole hnotGuarded
  have hold : start.roleKey organization stored.role ≠ ownerRoleKey := by
    intro hkey
    have hbegin := (h.owners user stored hkey).mp hstored
    rw [Store.memberResource, h.roleKey, hkey] at hnotGuarded
    exact hnotGuarded (.membership (by decide) ⟨stored, hbegin, hkey⟩)
  have hnew : start.roleKey organization (.dynamic id) ≠ ownerRoleKey := by
    have hkey : start.roleKey organization (.dynamic id) = r.name := by
      rw [Store.roleKey, ← h.roles, hrole]
      rfl
    rw [hkey]
    cases r with
    | owner => exact absurd rfl hr
    | _ => decide
  obtain ⟨-, rfl, rfl⟩ := Store.findMember_eq_some.mp hstored
  rw [hassigned.store]
  refine ⟨h.roles, ?_, h.delegations, h.overrides⟩
  intro user m hkey
  by_cases hsame : user = stored.user
  · -- Neither the member before nor the one after is an owner.
    have hafter := Store.findMember_putMember_self b.store { stored with role := .dynamic id }
    rw [hsame, hafter, ← h.owners _ m hkey, hstored]
    constructor
    · intro heq
      obtain rfl := Option.some.inj heq
      exact absurd hkey hnew
    · intro heq
      obtain rfl := Option.some.inj heq
      exact absurd hkey hold
  · have hother : (stored.organization, user) ≠ Member.key { stored with role := .dynamic id } :=
      fun heq => hsame (congrArg Prod.snd heq)
    rw [Store.findMember_putMember_of_ne hother]
    exact h.owners user m hkey

/-- A new delegation hands over a template below the owners' level, or permissions that its
delegator holds and that are therefore not guarded. -/
theorem of_delegationCreated (h : OwnersKept start organization b.store)
    (htemplates : start.FromTemplates organization) (hact : BelowOwners organization b act)
    {request : DelegationRequest} {d : Delegation}
    (hcreated : DelegationCreated b act.setting act.actor request d store) :
    OwnersKept start organization store := by
  rw [hcreated.store]
  refine ⟨h.roles, h.owners, ?_, h.overrides⟩
  intro e he horganization bearer hbearer
  rcases Table.mem_put.mp he with rfl | ⟨he, -⟩
  · cases hrequest : request.role with
    | some id =>
        obtain ⟨hid, role, hrole, hwithin⟩ := hcreated.of_role hrequest
        obtain ⟨r, hr, rfl⟩ := hact.template_of_within h htemplates hrole hwithin
        rw [hact.home] at hrole
        have hdelegated : bearer.delegatedRole? (start.access organization e) =
            some (r.toRole id organization) := by
          have hfound : (start.access organization e).role = start.findRole organization id := by
            rw [Store.access, hid]
            rfl
          rw [Bearer.delegatedRole?, hfound, hbearer, Store.access, hid, Option.bind_some,
            Store.matching?_findRole, ← h.roles, hrole]
        rw [Bearer.delegationRules_of_role hid, hdelegated]
        exact withholds_roleRules hr bearer _ _
    | none =>
        intro action target hguarded hgrant
        obtain ⟨p, hp, hcovers, htype⟩ := hcreated.exists_permission_of_verdict? hrequest hgrant
        have hheld := (hcreated.of_permissions hrequest).2.2 p hp
        obtain ⟨action', haction', target', htype', hwithin, hguarded'⟩ :=
          hguarded.of_covers hcovers htype
        have hreach : target'.within (b.rules act.setting act.actor.organization
            act.actor.user).organization = true := by
          rw [Backend.rules_of_no_cache hact.uncached, Store.organization_rules, hact.home]
          exact hwithin
        have hpermitted :=
          RuleSet.permits_of_grantsUnconditionally hheld haction' htype' hreach
        exact hact.not_guarded h htemplates hpermitted hguarded'
  · exact h.delegations e he horganization bearer hbearer

/-- A new override is about a resource on which its issuer may do all that it is about, so it is
not about what is guarded. -/
theorem of_overrideGranted (h : OwnersKept start organization b.store)
    (htemplates : start.FromTemplates organization) (hact : BelowOwners organization b act)
    {request : OverrideRequest} {o : Override}
    (hgranted : OverrideGranted b act.setting act.actor request o store) :
    OwnersKept start organization store := by
  rw [hgranted.store]
  refine ⟨h.roles, h.owners, h.delegations, ?_⟩
  intro other hother horganization bearer hbearer
  rcases Table.mem_put.mp hother with rfl | ⟨hother, -⟩
  · intro action target hguarded hgrant
    obtain ⟨-, p, hp, hcovers, htype, hinstance⟩ :=
      Bearer.verdict?_overrideRule?_eq_grant.mp hgrant
    obtain ⟨expiresAt, -, hcreated⟩ := hgranted.created
    obtain rfl : request.permission = p :=
      Option.some.inj ((Override.resolve?_of_create hcreated).symm.trans hp)
    obtain ⟨issued, hissued, hheld⟩ := hgranted.held
    cases hguarded with
    | @membership user haction howner =>
        have hid : user.toString = other.resourceId := (hinstance _ rfl).2
        rw [Override.resourceId_of_create hcreated] at hid
        obtain ⟨m, hbegin, hkey⟩ := howner
        have hstored := (h.owners user m hkey).mpr hbegin
        have htarget : issued = .resource (.ofMembership organization user ownerRoleKey) := by
          rw [htype] at hissued
          obtain ⟨resource, hresource, rfl⟩ := exists_of_issuedOn_membership hissued hid
          rw [membershipOf?, hact.home, hstored] at hresource
          obtain rfl : b.store.memberResource m organization user = resource :=
            Option.some.inj hresource
          rw [Store.memberResource, h.roleKey, hkey]
        have haction' : action ∈ Action.manage :: request.permission.coveredActions := by
          refine List.mem_cons_of_mem _ (Permission.mem_coveredActions hcovers ?_)
          rw [htype]
          exact cataloged_of_mem_protectedActions haction
        have hpermitted := hheld action haction'
        rw [htarget] at hpermitted
        exact hact.not_guarded h htemplates hpermitted (.membership haction ⟨m, hbegin, hkey⟩)
    | role haction hrole =>
        have htarget : issued.resourceType = .role := by
          have hother : ResourceType.role ≠ .membership := by rintro ⟨⟩
          rw [IssuedOn, htype, hrole, if_neg hother] at hissued
          rw [hissued]
          rfl
        refine hact.not_guarded h htemplates (hheld .manage (List.mem_cons_self ..)) ?_
        refine .role ?_ htarget
        rintro ⟨⟩
  · exact h.overrides other hother horganization bearer hbearer

/-- A stored delegation that is revoked or extended hands over what it handed over before. -/
theorem of_delegationKept (h : OwnersKept start organization b.store) {id : DelegationId}
    {stored : Delegation} (hmanaged : DelegationManaged b act.setting act.actor id stored)
    (active : Bool) (revokedAt : Option Instant) (endsAt : Instant) :
    OwnersKept start organization
      (b.store.putDelegation { stored with active, revokedAt, endsAt }) := by
  refine ⟨h.roles, h.owners, ?_, h.overrides⟩
  intro e he horganization bearer hbearer
  rcases Table.mem_put.mp he with rfl | ⟨he, -⟩
  · have hfound := hmanaged.found
    rw [Store.findDelegation, Option.filter_eq_some_iff] at hfound
    exact h.delegations stored (Table.mem_of_find? hfound.1) horganization bearer hbearer
  · exact h.delegations e he horganization bearer hbearer

/-- A stored override that is revoked or extended grants nothing that it did not grant before. -/
theorem of_overrideKept (h : OwnersKept start organization b.store) {id : OverrideId}
    {stored : Override} (hmanaged : OverrideManaged b act.setting act.actor id stored)
    {granted : Bool} (hgranted : granted = true → stored.granted = true)
    (expiresAt revokedAt : Option Instant) :
    OwnersKept start organization
      (b.store.putOverride { stored with granted, expiresAt, revokedAt }) := by
  refine ⟨h.roles, h.owners, h.delegations, ?_⟩
  intro e he horganization bearer hbearer
  rcases Table.mem_put.mp he with rfl | ⟨he, -⟩
  · have hfound := hmanaged.found
    rw [Store.findOverride, Option.filter_eq_some_iff] at hfound
    intro action target hguarded hgrant
    obtain ⟨hstill, hrule⟩ := Bearer.verdict?_overrideRule?_eq_grant.mp hgrant
    refine h.overrides stored (Table.mem_of_find? hfound.1) horganization bearer hbearer action
      target hguarded (Bearer.verdict?_overrideRule?_eq_grant.mpr ⟨hgranted hstill, hrule⟩)
  · exact h.overrides e he horganization bearer hbearer

/-- Every change by an actor below the owners' level preserves the invariant. -/
theorem preserved (h : OwnersKept start organization b.store)
    (htemplates : start.FromTemplates organization) (hact : BelowOwners organization b act)
    (hchange : StoreChange b act.setting act.actor store) :
    OwnersKept start organization store := by
  cases hchange with
  | nothing => exact h
  | role haction hpermitted =>
      refine absurd hpermitted (hact.not_mayOnRoles h htemplates ?_)
      rcases haction with rfl | rfl <;> rintro ⟨⟩
  | roleErased hpermitted =>
      refine absurd hpermitted (hact.not_mayOnRoles h htemplates ?_)
      rintro ⟨⟩
  | member hassigned => exact h.of_roleAssigned htemplates hact hassigned
  | delegation hcreated => exact h.of_delegationCreated htemplates hact hcreated
  | delegationKept hmanaged => exact h.of_delegationKept hmanaged _ _ _
  | override hgranted => exact h.of_overrideGranted htemplates hact hgranted
  | overrideKept hmanaged hgranted => exact h.of_overrideKept hmanaged hgranted _ _

end OwnersKept

end Change

/-! ## Whole runs -/

/-- Nothing is stored about the organization yet besides its members, teams and roles. -/
structure Store.Undelegated (s : Store) (organization : OrganizationId) : Prop where
  delegations : ∀ d ∈ s.delegations.rows, d.organization ≠ organization
  overrides : ∀ o ∈ s.overrides.rows, o.organization ≠ organization

theorem OwnersKept.of_undelegated {store : Store} {organization : OrganizationId}
    (h : store.Undelegated organization) : OwnersKept store organization store where
  roles _ := rfl
  owners _ _ _ := .rfl
  delegations d hd hd' := absurd hd' (h.delegations d hd)
  overrides o ho ho' := absurd ho' (h.overrides o ho)

/-- In an organization with the roles of the templates only, and with no delegations and overrides
yet, no run of actors below the owners' level changes the membership of an owner or makes anybody
an owner. -/
theorem Run.owners_safe {organization : OrganizationId} {b c : Backend}
    (h : Run (BelowOwners organization) b c) (htemplates : b.store.FromTemplates organization)
    (hundelegated : b.store.Undelegated organization) :
    (∀ user m, b.store.findMember organization user = some m →
      b.store.roleKey organization m.role = ownerRoleKey →
      c.store.findMember organization user = some m ∧
        c.store.roleKey organization m.role = ownerRoleKey) ∧
    ∀ user, c.store.IsOwner organization user → b.store.IsOwner organization user := by
  have hkept : OwnersKept b.store organization c.store :=
    h.preserves (OwnersKept.of_undelegated hundelegated)
      fun d act store hd hact hchange => hd.preserved htemplates hact hchange
  constructor
  · intro user m hmember hkey
    exact ⟨(hkept.owners user m hkey).mpr hmember, (hkept.roleKey m.role).trans hkey⟩
  · rintro user ⟨m, hmember, hkey⟩
    have hkey' := (hkept.roleKey m.role).symm.trans hkey
    exact ⟨m, (hkept.owners user m hkey').mp hmember, hkey'⟩

namespace Sample

/-- An administrator tries to make an owner a viewer. -/
def demotion : Act where
  setting := { now := ⟨0⟩ }
  actor := actor admin
  operation := .assignRole owner (roleId .viewer)

theorem fromTemplates_founded : founded.store.FromTemplates organization := by
  refine Bootstrap.keeping_ensureDefaultRoles unfounded fun id role hrole => ?_
  exact absurd (Store.findRole_eq_some.mp hrole).1 List.not_mem_nil

theorem undelegated_founded : founded.store.Undelegated organization where
  delegations _ hd := absurd hd List.not_mem_nil
  overrides _ ho := absurd ho List.not_mem_nil

end Sample

open Sample

/-- The owner is still an owner then, in an organization with its first roles. -/
theorem owner_survives_demotion :
    Run (BelowOwners organization) founded (demotion.after founded) ∧
      founded.store.findMember organization owner = some (memberAs owner (.legacy .owner)) ∧
      (demotion.after founded).store.findMember organization owner =
        some (memberAs owner (.legacy .owner)) := by
  have hact : BelowOwners organization founded demotion := by
    refine ⟨rfl, ?_, rfl⟩
    intro own hown
    obtain rfl : RolePriority.admin = own := Option.some.inj hown
    decide
  have hrun : Run (BelowOwners organization) founded (demotion.after founded) :=
    .act demotion (.refl founded) hact
  have hmember : founded.store.findMember organization owner =
      some (memberAs owner (.legacy .owner)) := rfl
  have hsafe := hrun.owners_safe fromTemplates_founded undelegated_founded
  exact ⟨hrun, hmember, (hsafe.1 owner _ hmember rfl).1⟩

end AccessControl

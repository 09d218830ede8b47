import AccessControl.Proofs.Administration.Checks
import AccessControl.Proofs.Outsiders
import AccessControl.Proofs.OwnerMemberships
import AccessControl.Proofs.Reach
import AccessControl.Proofs.WholeTypes

/-!
# Who gives an owner another role

The denials that shield the memberships of owners come with the administrators' level.  Between that
level and the owners' they stand behind all that a role grants, so nobody there changes the role of
an owner.  Below it nothing shields owners from a grant that reaches their memberships, and a custom
role can have one.  Where nothing is delegated and nothing excepted, that is the only way for
somebody below the owners' level (`Store.permits_owner_iff`, `Administration.assignRole_to_owner`).
-/

namespace AccessControl

open Administration Service Backend

/-! ## Memberships -/

/-- A membership belongs to its member, and is in no team and in no service. -/
theorem Bearer.reaches_ofMembership_iff {b : Bearer} {g : RoleGrant} {action : Action}
    {organization : OrganizationId} {member : UserId} {key : String} :
    b.Reaches g action (.ofMembership organization member key) ↔
      b.ReachesUnattached g action .membership (member = b.user) := by
  refine reaches_iff_of_unattached rfl rfl ?_
  constructor
  · rintro ⟨field, hfield, howner⟩
    obtain rfl := List.mem_singleton.mp hfield
    exact Option.some.inj howner
  · intro hown
    exact ⟨.user, List.mem_singleton_self _, congrArg some hown⟩

namespace Store

variable {s : Store} {organization : OrganizationId} {user member : UserId} {now : Instant}
  {action : Action}

/-- The membership is open to the user, also where it is that of an owner: the user's role is below
the administrators' level, and a grant of it reaches the membership. -/
def Exposes (s : Store) (organization : OrganizationId) (user : UserId) (now : Instant)
    (action : Action) (member : UserId) : Prop :=
  ∃ base, (s.sources organization user).baseRole? user organization = some base ∧
    base.priority < .admin ∧ ∃ g ∈ base.grants,
      ((s.sources organization user).bearer user organization now).ReachesUnattached g action
        .membership (member = user)

/-- Where nothing is delegated and nothing excepted, the rules of a member are those of the role. -/
theorem Undelegated.rules_of_baseRole? (h : s.Undelegated organization) {base : BaseRole}
    (hbase : (s.sources organization user).baseRole? user organization = some base) :
    (s.rules organization user now).rules =
      ((s.sources organization user).bearer user organization now).roleRules .role .escalation
        base := by
  have hdelegations : (s.sources organization user).delegations = [] := by
    refine List.eq_nil_iff_forall_not_mem.mpr fun access haccess => ?_
    obtain ⟨d, hd, horganization, -⟩ := exists_of_mem_delegations haccess
    exact h.delegations d hd horganization
  have hoverrides : (s.sources organization user).overrides = [] := by
    refine List.eq_nil_iff_forall_not_mem.mpr fun o ho => ?_
    obtain ⟨ho, horganization⟩ := mem_of_mem_overrides ho
    exact h.overrides o ho horganization
  rw [rules, resolve_of_baseRole? now hbase, Bearer.ruleSet, Bearer.memberRules_eq, hdelegations,
    hoverrides]
  simp [Bearer.delegationsInForce, Bearer.overrideLayer, Bearer.overridesInForce]

/-- Below the owners' level a change of an owner's membership is permitted to those whose role is
below the administrators' level as well and has a grant that reaches the membership. -/
theorem permits_owner_iff (hundelegated : s.Undelegated organization)
    (hbelow : ∀ own, s.priority? organization user = some own → own < .owner)
    (haction : action ∈ protectedActions) :
    (s.rules organization user now).permits action
        (.resource (.ofMembership organization member ownerRoleKey)) = true ↔
      s.Exposes organization user now action member := by
  have hprotected : OwnerProtected action
      (.resource (.ofMembership organization member ownerRoleKey)) :=
    ownerProtected_ofMembership haction member
  cases hbase : (s.sources organization user).baseRole? user organization with
  | none =>
      rw [rules, resolve_of_baseRole?_eq_none now hbase]
      refine iff_of_false (fun hguest => ?_) ?_
      · cases guest_concerns_organization hguest
      · rintro ⟨base, hsome, -⟩
        cases hbase.symm.trans hsome
  | some base =>
      have hpriority : s.priority? organization user = some base.priority := by
        rw [priority?, GrantSources.effectivePriority?, hbase]
        rfl
      have howner : base.priority.isOwner = false :=
        decide_eq_false (Nat.not_le.mpr (hbelow _ hpriority))
      have hreach : (Target.resource (.ofMembership organization member ownerRoleKey)).within
          (s.rules organization user now).organization = true :=
        decide_eq_true (s.organization_rules organization user now).symm
      rw [RuleSet.permits_iff, and_iff_right hreach, hundelegated.rules_of_baseRole? hbase,
        Bearer.verdict?_roleRules_eq_grant, howner]
      constructor
      · -- Between the two levels the denials stand behind whatever the role grants.
        rintro (⟨⟨⟩⟩ | ⟨hshielded, hgrant⟩)
        have hlevel : ¬base.priority.isAdmin = true := fun hadmin => hshielded ⟨hadmin, hprotected⟩
        rcases hgrant with hadministers | ⟨g, hg, hreaches⟩
        · exact absurd hadministers.level hlevel
        · refine ⟨base, hbase, Nat.not_le.mp fun hle => hlevel (decide_eq_true hle), g, hg, ?_⟩
          exact Bearer.reaches_ofMembership_iff.mp hreaches
      · rintro ⟨base', hbase', hadmin, g, hg, hreaches⟩
        obtain rfl : base = base' := Option.some.inj (hbase.symm.trans hbase')
        refine .inr ⟨fun hlevel => ?_, .inr ⟨g, hg, Bearer.reaches_ofMembership_iff.mpr hreaches⟩⟩
        exact absurd hadmin (Nat.not_lt.mpr (of_decide_eq_true hlevel.1))

end Store

/-! ## Assignments that nothing stands in the way of -/

section Assignment

variable {s : Setting} {b c : Backend} {actor : Actor}

/-- What the actor's rules permit is let through. -/
theorem Authorization.finishes_require {action : Action} {target : Target}
    (hworking : b.broken = []) (hc : Calm s b c)
    (hpermitted : (b.rules s actor.organization actor.user).permits action target = true) :
    Finishes c (require s actor action target) fun _ d => Calm s b d := by
  have hlearns : Learns s b (explain s actor.organization (some actor.user) action target) _ :=
    learns_explain action target
  refine (hlearns.finishes (sure_explain _ action target) hworking hc).bind fun e d hd => ?_
  have hverdict : e.permitted = true := hd.2 ▸ hpermitted
  rw [if_pos hverdict]
  exact Finishes.pure hd.1

theorem Administration.finishes_requirePriority {priority : RolePriority}
    (hworking : c.broken = [])
    (hwithin : c.store.Within actor.organization actor.user priority) :
    Finishes c (requirePriority actor priority) fun _ d => d = c := by
  obtain ⟨own, hown, hle⟩ := hwithin
  have hpriority : c.run (Authorization.effectivePriority actor.organization actor.user) =
      (.ok (some own), c) := by
    rw [Authorization.effectivePriority,
      run_bind_ok (Authorization.run_sources_of_working hworking)]
    exact congrArg (fun p => (Except.ok p, c)) hown
  have hceiling : checkCeiling priority own = .ok () := if_neg (Nat.not_lt.mpr hle)
  refine ⟨(), c, ?_, rfl⟩
  rw [requirePriority, ownPriority, Program.bind_assoc, run_bind_ok hpriority]
  change c.run (Program.ofOutcome (checkCeiling priority own)) = _
  rw [hceiling]
  rfl

/-- Whoever may change the role of a member, and finds a role of a priority within the own one,
gives it to the member. -/
theorem Administration.finishes_assignRole {user : UserId} {id : RoleId} {m : Member} {role : Role}
    (hworking : b.broken = []) (hmember : b.store.findMember actor.organization user = some m)
    (hpermitted : (b.rules s actor.organization actor.user).permits .changeRole
      (.resource (b.store.memberResource m actor.organization user)) = true)
    (hrole : b.store.findRole actor.organization id = some role)
    (hwithin : b.store.Within actor.organization actor.user role.priority) :
    Finishes b (assignRole s actor user id) fun m' _ => m' = { m with role := .dynamic id } := by
  have hask : b.run (ask (.findMember actor.organization user)) = (.ok (some m), b) := by
    rw [Authorization.run_ask_of_working hworking, serve, hmember]
  rw [Finishes, assignRole, run_bind_ok hask]
  have hlearns : Learns s b (memberResource actor m user) _ := learns_memberResource actor m user
  refine (hlearns.finishes (sure_memberResource m user) hworking .refl).bind
    fun resource c hc => ?_
  obtain ⟨hc, rfl⟩ := hc
  refine (Authorization.finishes_require hworking hc hpermitted).bind fun _ d hd => ?_
  have hd' : d.broken = [] := hd.broken.trans hworking
  refine (finishes_findRole role ?_ (hd.store ▸ hrole)).bind fun r e he => ?_
  · simp [outage?, hd']
  obtain ⟨rfl, rfl⟩ := he
  refine (finishes_requirePriority hd' (hd.store ▸ hwithin)).bind fun _ e he => ?_
  subst he
  -- All checks are passed, and nothing behind them fails.
  have hset : e.run (ask (.setMemberRole actor.organization user (.dynamic id))) =
      (.ok { m with role := .dynamic id },
        { e with store := e.store.putMember { m with role := .dynamic id } }) := by
    rw [Authorization.run_ask_of_working hd', serve, Backend.setMemberRole, Store.setMemberRole,
      hd.store, hmember]
  rw [Finishes, run_bind_ok hset]
  refine (Authorization.finishes_forgetUser _).bind fun _ f _ => ?_
  exact (finishes_report f s _).bind fun _ _ _ => Finishes.pure rfl

/-! ## Owners -/

/-- Where nothing is delegated and nothing excepted, an actor below the owners' level gives an owner
another role only when the owner's membership is exposed to the actor, and then a role that is found
and of a priority within the actor's own.  Everything else fails and leaves the store as it is,
whatever the role.  The rules by which the service decides are those of the store at some moment,
which is the present one where nothing is remembered. -/
theorem Administration.assignRole_to_owner {user : UserId} {m : Member} {moment : Instant}
    (hrules : b.rules s actor.organization actor.user =
      b.store.rules actor.organization actor.user moment)
    (hundelegated : b.store.Undelegated actor.organization)
    (hbelow : ∀ own, b.store.priority? actor.organization actor.user = some own → own < .owner)
    (hmember : b.store.findMember actor.organization user = some m)
    (howner : b.store.roleKey actor.organization m.role = ownerRoleKey) (id : RoleId) :
    (¬(b.store.Exposes actor.organization actor.user moment .changeRole user ∧
        ∃ role, b.store.findRole actor.organization id = some role ∧
          b.store.Within actor.organization actor.user role.priority) →
      ∃ fault c, b.run (assignRole s actor user id) = (.error fault, c) ∧ c.store = b.store) ∧
    (b.broken = [] → b.store.Exposes actor.organization actor.user moment .changeRole user →
      ∀ role, b.store.findRole actor.organization id = some role →
        b.store.Within actor.organization actor.user role.priority →
        ∃ c, b.run (assignRole s actor user id) = (.ok { m with role := .dynamic id }, c)) := by
  have hpermits : (b.rules s actor.organization actor.user).permits .changeRole
      (.resource (b.store.memberResource m actor.organization user)) = true ↔
        b.store.Exposes actor.organization actor.user moment .changeRole user := by
    rw [hrules, Store.memberResource, howner]
    exact Store.permits_owner_iff hundelegated hbelow (by decide)
  constructor
  · intro hclosed
    change ∃ fault c, b.run ((Operation.assignRole user id).perform s actor) =
      (.error fault, c) ∧ c.store = b.store
    cases hresult : (b.run ((Operation.assignRole user id).perform s actor)).1 with
    | error fault =>
        exact ⟨fault, _, Prod.ext hresult rfl, Operation.store_of_perform_error hresult⟩
    | ok changed =>
        have hassigned : RoleAssigned b s actor user id changed _ :=
          Operation.done_of_perform hresult
        obtain ⟨stored, hstored, -, hpermitted⟩ := hassigned.member
        obtain rfl : m = stored := Option.some.inj (hmember.symm.trans hstored)
        exact absurd ⟨hpermits.mp hpermitted, hassigned.role⟩ hclosed
  · intro hworking hexposed role hrole hwithin
    obtain ⟨_, c, hrun, rfl⟩ :=
      finishes_assignRole hworking hmember (hpermits.mpr hexposed) hrole hwithin
    exact ⟨c, hrun⟩

end Assignment

/-! ## A registrar -/

namespace Sample

def registrar : UserId := ⟨⟨7⟩⟩

/-- Registrars are of the members' level, and change the roles of members. -/
def registrarRole : Role :=
  customRole 9 ⟨"registrar", by decide⟩ .member [.unconditional ⟨.membership, .changeRole⟩]

def registry : Backend :=
  { backend with
    store := (store.putRole registrarRole).putMember
      (memberAs registrar (.dynamic registrarRole.id)) }

theorem undelegated_registry : registry.store.Undelegated organization where
  delegations _ hd := absurd hd List.not_mem_nil
  overrides _ ho := absurd ho List.not_mem_nil

/-- The registrars' grant reaches every membership. -/
theorem exposes_registry (member : UserId) :
    registry.store.Exposes organization registrar ⟨0⟩ .changeRole member := by
  refine ⟨.ofRole registrarRole, rfl, by decide, _, List.mem_singleton_self _, ?_⟩
  exact ⟨⟨⟨.membership, .changeRole⟩, Permission.resolve?_stored _, rfl, rfl⟩, rfl, nofun, rfl, rfl⟩

end Sample

open Sample

/-- Of two who are below the owners' level, the administrator fails to make a viewer of the owner,
and the registrar does it. -/
theorem admin_reassigns_no_owner_but_registrar_does :
    (∃ fault c, registry.run (assignRole { now := ⟨0⟩ } (actor admin) owner (roleId .viewer)) =
        (.error fault, c) ∧ c.store = registry.store) ∧
      ∃ c, registry.run (assignRole { now := ⟨0⟩ } (actor registrar) owner (roleId .viewer)) =
        (.ok (memberAs owner (.dynamic (roleId .viewer))), c) := by
  have hmember : registry.store.findMember organization owner =
      some (memberAs owner (.legacy .owner)) := rfl
  have hrules : ∀ user, registry.rules { now := ⟨0⟩ } (actor user).organization (actor user).user =
      registry.store.rules (actor user).organization (actor user).user ⟨0⟩ := fun _ => rfl
  constructor
  · have hbelow : ∀ own, registry.store.priority? organization admin = some own →
        own < .owner := by
      intro own hown
      obtain rfl : RolePriority.admin = own := Option.some.inj hown
      decide
    refine (assignRole_to_owner (hrules admin) undelegated_registry hbelow hmember rfl _).1 ?_
    rintro ⟨⟨base, hbase, hadmin, -⟩, -⟩
    obtain rfl : BaseRole.ofRole (LegacyRole.admin.toRole (roleId .admin) organization) = base :=
      Option.some.inj hbase
    exact absurd hadmin (by decide)
  · have hbelow : ∀ own, registry.store.priority? organization registrar = some own →
        own < .owner := by
      intro own hown
      obtain rfl : RolePriority.member = own := Option.some.inj hown
      decide
    exact (assignRole_to_owner (hrules registrar) undelegated_registry hbelow hmember rfl _).2 rfl
      (exposes_registry owner) (LegacyRole.viewer.toRole (roleId .viewer) organization) rfl
      ⟨.member, rfl, by decide⟩

/-- The registrar is of the members' level, and the owner is a viewer then. -/
theorem registrar_makes_viewer_of_owner :
    registry.store.delegations.rows = [] ∧ registry.store.overrides.rows = [] ∧
      registry.store.priority? organization registrar = some .member ∧
      RolePriority.member < .owner ∧
      registry.store.findMember organization owner = some (memberAs owner (.legacy .owner)) ∧
      registry.store.roleKey organization (.legacy .owner) = ownerRoleKey ∧
      ∃ c, registry.run (assignRole { now := ⟨0⟩ } (actor registrar) owner (roleId .viewer)) =
          (.ok (memberAs owner (.dynamic (roleId .viewer))), c) ∧
        c.store.findMember organization owner =
          some (memberAs owner (.dynamic (roleId .viewer))) :=
  ⟨rfl, rfl, rfl, by decide, rfl, rfl, _, Prod.ext (by decide +kernel) rfl, by decide +kernel⟩

end AccessControl

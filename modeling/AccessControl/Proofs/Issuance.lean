import AccessControl.Proofs.Administration.Overrides
import AccessControl.Proofs.Exceptions
import AccessControl.Proofs.Selection

/-!
# Where an override takes effect

Whoever grants an override has to manage the resource that is found for the identifier in the
request.  What is kept is the identifier as it was written, without the blanks around it, and an
override decides where it is that of the resource, character by character.  Memberships are the one
type whose identifiers are read in between and printed again: they may be written in several ways,
of which only one is printed.

So the override decides about the resource that was checked exactly when the identifier was written
as it is printed (`explain_of_grantOverride`).
-/

namespace AccessControl

open Administration Service Backend

/-! ## Rules by their source -/

namespace Bearer

variable {b : Bearer} {source : RuleSource} {rule : Rule}

theorem source_of_grantRule? {g : RoleGrant} (h : b.grantRule? source g = some rule) :
    rule.source = source := by
  rw [grantRule?] at h
  cases hp : g.permission.resolve? with
  | none => simp [hp] at h
  | some p =>
      simp only [hp, Option.bind_eq_bind, Option.bind_some] at h
      split at h
      · obtain rfl := Option.some.inj h
        rfl
      · cases h

theorem source_of_mem_escalationRules {priority : RolePriority}
    (h : rule ∈ b.escalationRules source priority) : rule.source = source := by
  rcases mem_escalationRules h with h | ⟨a, -, rfl⟩ | rfl
  · obtain ⟨a, -, rfl⟩ := List.mem_map.mp h
    rfl
  · rfl
  · rfl

theorem source_of_mem_roleRules {grantSource : RuleSource} {role : BaseRole}
    (h : rule ∈ b.roleRules grantSource source role) :
    rule.source = grantSource ∨ rule.source = source := by
  rcases mem_roleRules.mp h with ⟨g, -, hrule⟩ | h
  · exact .inl (source_of_grantRule? hrule)
  · exact .inr (source_of_mem_escalationRules h)

theorem source_of_mem_delegationRules {access : DelegatedAccess}
    (h : rule ∈ b.delegationRules access) : rule.source = .delegation := by
  rcases mem_delegationRules h with ⟨role, -, h⟩ | h
  · rcases source_of_mem_roleRules h with hsource | hsource <;> exact hsource
  · obtain ⟨names, -, p, -, rfl⟩ := mem_permissionRules.mp h
    rfl

variable {role : BaseRole} {sources : GrantSources} {now : Instant} {action : Action}
  {r : Resource}

/-- Where no override is about the action on the resource, none explains the answer. -/
theorem source_ne_override (hr : r.organization = b.organization)
    (h : b.overridesAbout now sources.overrides action r = []) :
    ((b.ruleSet role sources now).explain action (.resource r)).source ≠ some .override := by
  have hreach : (Target.resource r).within (b.ruleSet role sources now).organization = true := by
    simp [Target.within, ruleSet, hr]
  have hsilent := not_decides_of_overridesAbout_eq_nil hr h
  rw [RuleSet.explain_of_within hreach, ruleSet, memberRules_eq, lastApplying?_append,
    lastApplying?_overrideLayer_eq_none hsilent, Option.none_or]
  cases hlast : lastApplying? (b.roleRules .role .escalation role ++
      (b.delegationsInForce now sources.delegations).flatMap b.delegationRules) action
        (.resource r) with
  | none => simp [Explanation.byDefault]
  | some rule =>
      rw [Option.map_some, Option.getD_some, Explanation.ofRule]
      intro hsource
      have hoverride : rule.source = .override := Option.some.inj hsource
      rcases List.mem_append.mp (mem_of_lastApplying? hlast) with hrule | hrule
      · rcases source_of_mem_roleRules hrule with hother | hother <;>
          cases hother.symm.trans hoverride
      · obtain ⟨access, -, hrule⟩ := List.mem_flatMap.mp hrule
        cases (source_of_mem_delegationRules hrule).symm.trans hoverride

/-- An override that comes last and is the only one that could be about the action on the resource
gives the answer exactly when it is about it. -/
theorem explain_eq_iff_isAbout {old : List Override} {o : Override}
    (hr : r.organization = b.organization) (hoverrides : sources.overrides = old ++ [o])
    (hold : ∀ other ∈ old, b.isExcepted now other = true → other.isAbout action r = false)
    (hexcepted : b.isExcepted now o = true) :
    (b.ruleSet role sources now).explain action (.resource r) = ⟨o.granted, some .override⟩ ↔
      o.isAbout action r = true := by
  have hnone : b.overridesAbout now old action r = [] := by
    refine List.filter_eq_nil_iff.mpr ?_
    intro other hother hboth
    rw [Bool.and_eq_true] at hboth
    cases (hold other hother hboth.1).symm.trans hboth.2
  have habout : b.overridesAbout now sources.overrides action r =
      [o].filter fun o => b.isExcepted now o && o.isAbout action r := by
    rw [hoverrides, overridesAbout, List.filter_append, ← overridesAbout, hnone, List.nil_append]
  cases hdecides : o.isAbout action r with
  | true =>
      have hlatest : IsLatest Override.age (b.overridesAbout now sources.overrides action r) o := by
        refine ⟨[], [], ?_, by simp, by simp⟩
        simp [habout, hexcepted, hdecides]
      exact iff_of_true (explain_of_isLatest hr hlatest) rfl
  | false =>
      refine iff_of_false ?_ (by simp)
      intro hexplained
      have hnil : b.overridesAbout now sources.overrides action r = [] := by
        simp [habout, hdecides]
      exact source_ne_override hr hnil (congrArg Explanation.source hexplained)

end Bearer

/-! ## What is stored -/

/-- A new override comes last among those that its user received. -/
theorem Store.sources_putOverride {s : Store} {o : Override}
    (hfree : s.overrides.find? o.id = none) (hunrevoked : o.revokedAt = none) {m : Member}
    (hmember : s.findMember o.organization o.user = some m) :
    (s.putOverride o).sources o.organization o.user =
      { s.sources o.organization o.user with
        overrides := (s.sources o.organization o.user).overrides ++ [o] } := by
  have hreceived : (s.putOverride o).receivedOverrides o.organization o.user =
      s.receivedOverrides o.organization o.user ++ [o] := by
    have hnew := Table.find?_eq_none.mp hfree
    rw [receivedOverrides, putOverride, Table.rows_put_of_not_mem hnew, List.filter_append]
    simp [receivedOverrides, hunrevoked]
  have hsame : (s.putOverride o).findMember o.organization o.user =
      s.findMember o.organization o.user := rfl
  have hbefore : (s.sources o.organization o.user).overrides =
      s.receivedOverrides o.organization o.user := by
    rw [sources, hmember]
  rw [hbefore, ← hreceived, sources, sources, hsame, hmember]
  rfl

/-! ## Granting and asking -/

/-- The identifier of a membership is written as that of a user is printed; those of other resources
may be written in any way. -/
def AsPrinted (t : ResourceType) (resourceId : String) : Prop :=
  t = .membership → ∀ user : UserId, Id.parse resourceId = .ok user → user.toString = resourceId

theorem asPrinted_of_trim {t : ResourceType} {resourceId : String} {user : UserId}
    (h : Text.trim resourceId = user.toString) : AsPrinted t (Text.trim resourceId) := by
  rintro - user' hparsed
  have hread : Id.parse (Text.trim resourceId) = .ok user :=
    Id.parse_of_trim ((Text.trim_trim resourceId).trans h)
  obtain rfl : user' = user := Except.ok.inj (hparsed.symm.trans hread)
  exact h.symm

section Granting

variable {b c : Backend} {s : Setting} {actor : Actor} {request : OverrideRequest} {o : Override}

/-- An override is granted on one resource of the organization, which has the identifier in the
request exactly when that is written as it is printed. -/
theorem exists_resource_of_issuedOn {t : ResourceType} {resourceId : String} {target : Target}
    (h : IssuedOn b actor t resourceId target) :
    ∃ r : Resource, target = .resource r ∧ r.resourceType = t ∧
      r.organization = actor.organization ∧ (resourceId = r.id ↔ AsPrinted t resourceId) := by
  rw [IssuedOn] at h
  split at h
  · rename_i ht
    subst ht
    obtain ⟨user, resource, hparsed, hresource, rfl⟩ := h
    obtain ⟨m, -, rfl⟩ := Option.map_eq_some_iff.mp hresource
    refine ⟨_, rfl, rfl, rfl, ?_⟩
    constructor
    · rintro hid - user' hparsed'
      obtain rfl : user = user' := Except.ok.inj (hparsed.symm.trans hparsed')
      exact hid.symm
    · intro hprinted
      exact (hprinted rfl user hparsed).symm
  · rename_i ht
    subst h
    exact ⟨_, rfl, rfl, rfl, iff_of_true rfl fun hmembership => absurd hmembership ht⟩

/-- One who has granted an override has found the resource that it is on. -/
theorem exists_target_of_grantOverride
    (hrun : b.run (grantOverride s actor request) = (.ok o, c)) :
    ∃ target, (b.run (overrideTarget actor request.permission.resourceType
        (Text.trim request.resourceId))).1 = .ok target ∧
      IssuedOn b actor request.permission.resourceType (Text.trim request.resourceId) target := by
  rw [grantOverride] at hrun
  obtain ⟨u, d, hself, hrun⟩ := exists_of_run_bind hrun
  obtain rfl : b = d := congrArg Prod.snd hself
  obtain ⟨target, d, htarget, -⟩ := exists_of_run_bind hrun
  have hlearns := (learns_overrideTarget _ _ : Learns s b (overrideTarget actor
    request.permission.resourceType (Text.trim request.resourceId)) _) b .refl
  rw [htarget] at hlearns
  exact ⟨target, congrArg Prod.fst htarget, hlearns.2⟩

theorem run_explain_of_working (hworking : b.broken = []) (organization : OrganizationId)
    (user : UserId) (action : Action) (target : Target) :
    (b.run (Authorization.explain s organization (some user) action target)).1 =
      .ok ((b.rules s organization user).explain action target) :=
  (Authorization.finishes_explain hworking s organization (some user) action target).fst_eq

theorem covers_of_mem_coveredActions {p : Permission} {action : Action}
    (h : action ∈ p.coveredActions) : p.action.covers action = true := by
  rw [Permission.coveredActions] at h
  split at h
  · rename_i hmanage
    rw [hmanage, Action.manage_covers]
  · rw [List.mem_singleton.mp h, Action.covers_self]

/-- Right after an override has been granted, the resource that was checked is answered for by the
override exactly when its identifier was written as it is printed.  The recipient has a role that is
found and no other override in force about resources of the type. -/
theorem explain_of_grantOverride (hrun : b.run (grantOverride s actor request) = (.ok o, c))
    (huncached : s.cacheTtl = none) (hworking : b.broken = [])
    (hrole : ((b.store.sources actor.organization request.user).baseRole? request.user
      actor.organization).isSome = true)
    (hothers : ∀ other ∈ b.store.overrides.rows, other.organization = actor.organization →
      other.user = request.user → other.isActiveAt s.now = true → ∀ p, other.resolve? = some p →
        p.resourceType ≠ request.permission.resourceType) :
    ∃ target, (b.run (overrideTarget actor request.permission.resourceType
        (Text.trim request.resourceId))).1 = .ok target ∧
      ∀ action ∈ request.permission.coveredActions, ∃ e,
        (c.run (Authorization.explain s actor.organization (some request.user) action target)).1 =
          .ok e ∧
        (e = ⟨request.granted, some .override⟩ ↔
          AsPrinted request.permission.resourceType (Text.trim request.resourceId)) := by
  obtain ⟨target, htarget, hissued⟩ := exists_target_of_grantOverride hrun
  obtain ⟨r, rfl, htype, horganization, hprinted⟩ := exists_resource_of_issuedOn hissued
  have hgranted : OverrideGranted b s actor request o c.store := by
    have hends := (ends_grantOverride request : Service.Ends s b (grantOverride s actor request) _)
      b .refl
    rw [hrun] at hends
    exact hends
  have hworking' : c.broken = [] := by
    rw [← hworking, ← broken_run b (grantOverride s actor request), hrun]
  obtain ⟨m, hmember, -⟩ := hgranted.recipient
  obtain ⟨expiresAt, -, hcreated⟩ := hgranted.created
  have hactive := Override.isActiveAt_of_create hcreated
  have hresolved := Override.resolve?_of_create hcreated
  have hresourceId := Override.resourceId_of_create hcreated
  obtain ⟨hours, huser, hgrants⟩ : o.organization = actor.organization ∧ o.user = request.user ∧
      o.granted = request.granted := by
    rw [Override.eq_of_create hcreated]
    exact ⟨rfl, rfl, rfl⟩
  have hsources := Store.sources_putOverride hgranted.free (Override.isActiveAt_iff.mp hactive).1
    (hours ▸ huser ▸ hmember)
  rw [hours, huser, ← hgranted.store] at hsources
  obtain ⟨role, hrole⟩ := Option.isSome_iff_exists.mp hrole
  have hrole' : (c.store.sources actor.organization request.user).baseRole? request.user
      actor.organization = some role := by
    rw [hsources]
    exact hrole
  refine ⟨.resource r, htarget, fun action haction => ?_⟩
  refine ⟨_, run_explain_of_working hworking' _ _ _ _, ?_⟩
  have hcovers := covers_of_mem_coveredActions haction
  rw [rules_of_no_cache huncached, Store.rules, resolve_of_baseRole? s.now hrole', ← hgrants,
    Bearer.explain_eq_iff_isAbout horganization (congrArg GrantSources.overrides hsources) ?_ ?_,
    Override.isAbout_iff, ← hprinted, hresourceId]
  · constructor
    · rintro ⟨p, -, -, -, hid⟩
      exact hid
    · intro hid
      exact ⟨request.permission, hresolved, hcovers, htype.symm, hid⟩
  · intro other hother hexcepted
    obtain ⟨hstored, hotherOrganization⟩ := Store.mem_of_mem_overrides hother
    obtain ⟨hotherUser, -, hotherActive⟩ := Bearer.isExcepted_iff.mp hexcepted
    refine Bool.eq_false_iff.mpr fun habout => ?_
    obtain ⟨p, hp, -, hsameType, -⟩ := Override.isAbout_iff.mp habout
    exact hothers other hstored hotherOrganization hotherUser hotherActive p hp
      (hsameType.trans htype)
  · exact Bearer.isExcepted_iff.mpr ⟨huser, hours, hactive⟩

end Granting

/-! ## Two spellings of one member -/

namespace Sample

/-- The administrator's identifier without its hyphens, which is read but not printed so. -/
def bare : String := "00000000000000000000000000000002"

/-- The owner forbids the viewer to see the administrator, whose identifier is written in some
way. -/
def concealment (resourceId : String) : OverrideRequest where
  user := viewer
  permission := ⟨.membership, .read⟩
  resourceId
  granted := false
  expiresAt := none

/-- What is kept of it. -/
def concealed (resourceId : String) : Override where
  id := backend.nextId .override
  organization
  user := viewer
  permission := (⟨.membership, .read⟩ : Permission).stored
  resourceType := ResourceType.membership.name
  resourceId
  granted := false
  expiresAt := none
  revokedAt := none
  grantedBy := some owner
  createdAt := ⟨0⟩

/-- The membership of the administrator. -/
def adminMembership : Resource :=
  store.memberResource (memberAs admin (.dynamic (roleId .admin))) organization admin

end Sample

open Sample

/-- The viewer is forbidden to see the administrator, by an identifier without hyphens, and still
does by the own role. -/
theorem viewer_sees_concealed_admin :
    store.overrides.rows = [] ∧
      ((store.sources organization viewer).baseRole? viewer organization).isSome = true ∧
      (backend.run (overrideTarget (actor owner) .membership (Text.trim bare))).1 =
        .ok (.resource adminMembership) ∧
      ∃ c, backend.run (grantOverride { now := ⟨0⟩ } (actor owner) (concealment bare)) =
          (.ok (concealed bare), c) ∧
        (c.run (Authorization.explain { now := ⟨0⟩ } organization (some viewer) .read
          (.resource adminMembership))).1 = .ok ⟨true, some .role⟩ :=
  ⟨rfl, rfl, by decide +kernel, _, Prod.ext (by decide +kernel) rfl, by decide +kernel⟩

/-- The same with the identifier as it is printed. -/
theorem viewer_does_not_see_concealed_admin :
    ∃ target c, backend.run (grantOverride { now := ⟨0⟩ } (actor owner)
          (concealment admin.toString)) = (.ok (concealed admin.toString), c) ∧
      (backend.run (overrideTarget (actor owner) .membership (Text.trim admin.toString))).1 =
        .ok target ∧
      (c.run (Authorization.explain { now := ⟨0⟩ } organization (some viewer) .read target)).1 =
        .ok ⟨false, some .override⟩ := by
  have hrun : backend.run (grantOverride { now := ⟨0⟩ } (actor owner)
      (concealment admin.toString)) = (.ok (concealed admin.toString), _) :=
    Prod.ext (by decide +kernel) rfl
  obtain ⟨target, htarget, hexplains⟩ :=
    explain_of_grantOverride hrun rfl rfl rfl fun _ hnone => nomatch hnone
  obtain ⟨e, he, hexplained⟩ := hexplains .read (by decide)
  have hprinted : Text.trim admin.toString = admin.toString := by decide +kernel
  obtain rfl : e = ⟨false, some .override⟩ := hexplained.mpr (asPrinted_of_trim hprinted)
  exact ⟨target, _, hrun, htarget, he⟩

end AccessControl

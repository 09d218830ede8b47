import AccessControl.Proofs.Issuance

/-!
# Checks on bare resources

Whoever grants an override has to hold it on the resource as far as the identifier tells: without
owners, without a team and without a service.  Of the attributes that are left out a grant may ask
for any, but no denial asks for one: what overrides deny they deny by the identifier, and what
administrators are denied by the key of a role (`conditions_of_denial_of_mem_memberRules`).  So with
more attributes more grants apply, and the same denials, and what is permitted on the bare resource
is permitted on the real one (`resolve_permits_of_bare`).

A service belongs to itself unless it says otherwise, which is the one attribute that a resource can
lose.
-/

namespace AccessControl

open Administration Service

/-! ## Resources in more detail -/

namespace Resource

/-- The resource has none of the attributes that not all resources have. -/
structure IsBare (r : Resource) : Prop where
  owners : r.owners = {}
  team : r.team = none
  service : r.service = none

/-- The two are the same resource, whatever is known of its owners, its team and its service. -/
structure Alike (y x : Resource) : Prop where
  resourceType : y.resourceType = x.resourceType
  id : y.id = x.id
  organization : y.organization = x.organization
  roleKey : y.roleKey = x.roleKey
  active : y.active = x.active

/-- The same resource, with all the attributes of `x` and perhaps more. -/
structure Completes (y x : Resource) : Prop extends Alike y x where
  owners : ∀ field user, x.owners.get field = some user → y.owners.get field = some user
  team : ∀ team, x.team = some team → y.team = some team
  service : ∀ service, x.serviceScope = some service → y.serviceScope = some service

variable {x y : Resource}

/-- A bare resource belongs to a service only when it is one. -/
theorem IsBare.serviceScope_eq_some (hbare : x.IsBare) {service : String} :
    x.serviceScope = some service ↔ x.resourceType = .service ∧ x.id = service := by
  rw [serviceScope, hbare.service, Option.none_or, Option.ite_none_right_eq_some, Option.some_inj]

/-- Any attributes complete a bare resource, but a service has to stay its own. -/
theorem IsBare.completes (hbare : x.IsBare) (halike : y.Alike x)
    (hservice : y.resourceType = .service → y.service = none) : y.Completes x := by
  refine ⟨halike, ?_, ?_, ?_⟩
  · intro field user howner
    rw [hbare.owners] at howner
    cases field <;> cases howner
  · intro team hteam
    cases hbare.team.symm.trans hteam
  · intro service hscope
    obtain ⟨htype, rfl⟩ := hbare.serviceScope_eq_some.mp hscope
    have htype' := halike.resourceType.trans htype
    rw [serviceScope, hservice htype', htype', halike.id]
    rfl

theorem isBare_mk (t : ResourceType) (id : String) (organization : OrganizationId) :
    IsBare { resourceType := t, id, organization } :=
  ⟨rfl, rfl, rfl⟩

end Resource

/-! ## Rules -/

/-- The condition is about what a resource is, and not about an attribute. -/
def RuleCondition.IsNaming : RuleCondition → Prop
  | .ownedBy .. | .inTeams _ | .inServices _ => False
  | .isResource _ | .inOrganization _ | .activeOrganization | .holdsRole _ => True

section Monotone

variable {x y : Resource} {action : Action} {rule : Rule} {rules : List Rule}

/-- A condition on what a resource is holds whatever is known of its attributes. -/
theorem RuleCondition.IsNaming.holds_eq {c : RuleCondition} (hc : c.IsNaming) (h : y.Alike x) :
    c.holds y = c.holds x := by
  cases c with
  | ownedBy | inTeams | inServices => cases hc
  | _ => simp only [holds, h.resourceType, h.id, h.organization, h.roleKey, h.active]

/-- With more attributes a condition still holds. -/
theorem RuleCondition.holds_of_completes (h : y.Completes x) {c : RuleCondition}
    (hholds : c.holds x = true) : c.holds y = true := by
  cases c with
  | ownedBy fields user =>
      simp only [holds, List.any_eq_true, decide_eq_true_eq] at hholds ⊢
      obtain ⟨field, hfield, howner⟩ := hholds
      exact ⟨field, hfield, h.owners field user howner⟩
  | inTeams teams =>
      simp only [holds, Option.any_eq_true] at hholds ⊢
      obtain ⟨team, hteam, hmem⟩ := hholds
      exact ⟨team, h.team team hteam, hmem⟩
  | inServices services =>
      simp only [holds, Option.any_eq_true] at hholds ⊢
      obtain ⟨service, hservice, hmem⟩ := hholds
      exact ⟨service, h.service service hservice, hmem⟩
  | _ =>
      refine (IsNaming.holds_eq ?_ h.toAlike).trans hholds
      trivial

/-- With more attributes a rule still applies. -/
theorem Rule.applies_of_completes (h : y.Completes x)
    (happlies : rule.applies action (.resource x) = true) :
    rule.applies action (.resource y) = true := by
  obtain ⟨hconcerns, hholds⟩ := applies_resource.mp happlies
  refine applies_resource.mpr ⟨h.resourceType ▸ hconcerns, ?_⟩
  intro c hc
  exact RuleCondition.holds_of_completes h (hholds c hc)

/-- A rule that asks for no attribute applies whatever is known of them. -/
theorem Rule.applies_iff_of_alike (hnaming : ∀ c ∈ rule.conditions, c.IsNaming) (h : y.Alike x) :
    rule.applies action (.resource y) = true ↔ rule.applies action (.resource x) = true := by
  rw [applies_resource, applies_resource, h.resourceType]
  refine and_congr_right fun _ => ?_
  refine forall₂_congr fun c hc => ?_
  rw [(hnaming c hc).holds_eq h]

/-- What is granted on a resource is granted on it in more detail, by rules whose denials ask for no
attribute. -/
theorem verdict?_of_completes (h : y.Completes x)
    (hdenials : ∀ rule ∈ rules, rule.effect = .deny → ∀ c ∈ rule.conditions, c.IsNaming)
    (hgranted : verdict? rules action (.resource x) = some .grant) :
    verdict? rules action (.resource y) = some .grant := by
  -- Rules are tried from the last one on, so the induction takes the last one off.
  induction rules using List.reverseRecOn with
  | nil => cases hgranted
  | append_singleton earlier last ih =>
      have hearlier : verdict? earlier action (.resource x) = some .grant →
          verdict? earlier action (.resource y) = some .grant :=
        ih fun rule hrule => hdenials rule (List.mem_append_left _ hrule)
      have hlast := hdenials last (by simp)
      rw [verdict?_append, verdict?_singleton] at hgranted ⊢
      cases heffect : last.effect with
      | deny =>
          have hsame : last.applies action (.resource y) = last.applies action (.resource x) :=
            Bool.eq_iff_iff.mpr (Rule.applies_iff_of_alike (hlast heffect) h.toAlike)
          rw [heffect, ← hsame] at hgranted
          cases happlies : last.applies action (.resource y) with
          | true => simp [happlies] at hgranted
          | false =>
              simp only [happlies, Bool.false_eq_true, if_false, Option.none_or] at hgranted ⊢
              exact hearlier hgranted
      | grant =>
          cases happlies : last.applies action (.resource y) with
          | true => rfl
          | false =>
              have hnot : ¬last.applies action (.resource x) = true := by
                intro hx
                cases happlies.symm.trans (Rule.applies_of_completes h hx)
              rw [if_neg hnot, Option.none_or] at hgranted
              simpa using hearlier hgranted

end Monotone

/-! ## Rule sets of users -/

/-- The denials of a member ask for no attribute. -/
theorem Bearer.conditions_of_denial_of_mem_memberRules {b : Bearer} {role : BaseRole}
    {sources : GrantSources} {now : Instant} {rule : Rule}
    (h : rule ∈ memberRules b role sources now) (hdeny : rule.effect = .deny) :
    ∀ c ∈ rule.conditions, c.IsNaming := by
  intro c hc
  rcases denial_of_mem_memberRules h hdeny with ⟨source, a, -, rfl⟩ | ⟨o, -, -, hrule⟩
  · obtain rfl : c = .holdsRole ownerRoleKey := List.mem_singleton.mp hc
    trivial
  · obtain ⟨p, -, -, -, -, hconditions, -⟩ := overrideRule?_eq_some hrule
    rw [hconditions] at hc
    rcases List.mem_pair.mp hc with rfl | rfl <;> trivial

section Resolved

variable {user : Option UserId} {organization : OrganizationId} {sources : GrantSources}
  {now : Instant} {x y : Resource} {action : Action}

theorem resolve_conditions_of_denial {rule : Rule}
    (h : rule ∈ (resolve user organization sources now).rules) (hdeny : rule.effect = .deny) :
    ∀ c ∈ rule.conditions, c.IsNaming := by
  have hguest : rule ∉ (guestRuleSet organization).rules := by
    intro hrule
    obtain rfl := List.mem_singleton.mp hrule
    cases hdeny
  cases user with
  | none => exact absurd h hguest
  | some user =>
      cases hrole : sources.baseRole? user organization with
      | none =>
          rw [resolve_of_baseRole?_eq_none now hrole] at h
          exact absurd h hguest
      | some role =>
          rw [resolve_of_baseRole? now hrole] at h
          exact Bearer.conditions_of_denial_of_mem_memberRules h hdeny

/-- What a user is permitted on a resource, the user is permitted on it in more detail. -/
theorem resolve_permits_of_completes (h : y.Completes x)
    (hpermitted : (resolve user organization sources now).permits action (.resource x) = true) :
    (resolve user organization sources now).permits action (.resource y) = true := by
  rw [RuleSet.permits_iff] at hpermitted ⊢
  obtain ⟨hwithin, hverdict⟩ := hpermitted
  refine ⟨?_, verdict?_of_completes h (fun _ => resolve_conditions_of_denial) hverdict⟩
  simpa [Target.within, h.organization] using hwithin

end Resolved

/-- What is permitted on a bare resource is permitted on it with any owners, team and service, but
for services that do not belong to themselves.

So one who has granted an override, and whose rules were those of a user, holds what it gives or
takes on the real resource: the check was about it, with no attributes unless it is a membership. -/
theorem resolve_permits_of_bare (user : Option UserId) (organization : OrganizationId)
    (sources : GrantSources) (now : Instant) :
    (∀ action (x y : Resource), x.IsBare → y.Alike x →
      (y.resourceType = .service → y.service = none) →
      (resolve user organization sources now).permits action (.resource x) = true →
        (resolve user organization sources now).permits action (.resource y) = true) ∧
    ∀ (s : Setting) (b c : Backend) (actor : Actor) (request : OverrideRequest) (o : Override),
      b.rules s actor.organization actor.user = resolve user organization sources now →
      b.run (grantOverride s actor request) = (.ok o, c) →
        ∃ x : Resource,
          IssuedOn b actor request.permission.resourceType (Text.trim request.resourceId)
            (.resource x) ∧
          (request.permission.resourceType ≠ .membership → x.IsBare) ∧
          ∀ y : Resource, y.Completes x →
            ∀ action ∈ Action.manage :: request.permission.coveredActions,
              (resolve user organization sources now).permits action (.resource y) = true := by
  constructor
  · intro action x y hbare halike hservice hpermitted
    exact resolve_permits_of_completes (hbare.completes halike hservice) hpermitted
  · intro s b c actor request o hrules hrun
    have hgranted : OverrideGranted b s actor request o c.store :=
      (ends_grantOverride request).of_run hrun
    obtain ⟨target, hissued, hheld⟩ := hgranted.held
    obtain ⟨x, rfl, -⟩ := exists_resource_of_issuedOn hissued
    refine ⟨x, hissued, ?_, ?_⟩
    · intro htype
      rw [IssuedOn, if_neg htype] at hissued
      obtain rfl := Target.resource.inj hissued
      exact Resource.isBare_mk _ _ _
    · intro y hcompletes action haction
      refine resolve_permits_of_completes hcompletes ?_
      rw [← hrules]
      exact hheld action haction

/-! ## A task of a team -/

namespace Sample

/-- The administrator lets the viewer change a task. -/
def taskAccess : OverrideRequest where
  user := viewer
  permission := ⟨.task, .update⟩
  resourceId := " 7 "
  granted := true
  expiresAt := none

/-- What is kept of it. -/
def taskAccessKept : Override :=
  { exception 0 viewer ⟨.task, .update⟩ "7" true with
    id := backend.nextId .override
    grantedBy := some admin }

/-- The task as it is, with its people, its team and its service. -/
def busyTask : Resource :=
  { task "7" with
    owners := { assignee := some viewer, creator := some owner }
    team := some "blue"
    service := some "billing" }

end Sample

open Sample

/-- The administrator may change the task as it is. -/
theorem admin_updates_busy_task :
    ∃ c, backend.run (grantOverride { now := ⟨0⟩ } (actor admin) taskAccess) =
        (.ok taskAccessKept, c) ∧
      (store.rules organization admin ⟨0⟩).permits .update (.resource busyTask) = true := by
  have hrun : backend.run (grantOverride { now := ⟨0⟩ } (actor admin) taskAccess) =
      (.ok taskAccessKept, _) := Prod.ext (by decide +kernel) rfl
  refine ⟨_, hrun, ?_⟩
  obtain ⟨x, hissued, hbare, hreal⟩ := (resolve_permits_of_bare (some admin) organization
    (store.sources organization admin) ⟨0⟩).2 _ _ _ _ _ _ (Backend.rules_of_no_cache rfl _ _) hrun
  have htrim : Text.trim taskAccess.resourceId = "7" := by decide +kernel
  rw [IssuedOn, if_neg (by decide), htrim] at hissued
  obtain rfl := Target.resource.inj hissued
  refine hreal busyTask ?_ .update (by decide)
  exact (hbare (by decide)).completes ⟨rfl, rfl, rfl, rfl, rfl⟩ (by decide)

end AccessControl

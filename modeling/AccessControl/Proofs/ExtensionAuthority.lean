import AccessControl.Proofs.Administration.Checks
import AccessControl.Proofs.Outsiders
import AccessControl.Proofs.Reach

/-!
# Extending an override and issuing it

Whoever issues an override has to manage the resource and to hold each action that the permission
covers there.  Whoever extends one has to manage the resource only.  A rule by which the resource is
managed is about every action, so each of them is decided, and is permitted unless something behind
that rule denies it.  That is the latest override about the action, or the shield of owners'
memberships: among the member's own role and the delegations in force the last one that decides is a
role of the administrators' level (`Bearer.permits_iff_not_withholds`).  So extending needs the
authority to issue but for what the extender is denied while managing the resource
(`Administration.permits_of_extendOverride`).

An override whose resource cannot be told is managed by those who manage all members.
-/

namespace AccessControl

open Administration Service Backend

/-! ## Blocks of rules -/

section Verdicts

variable {action : Action} {target : Target} {effect : Effect} {α : Type} {blocks : List α}
  {f : α → List Rule}

/-- Blocks of rules decide nothing together when none of them does. -/
theorem verdict?_flatMap_eq_none :
    verdict? (blocks.flatMap f) action target = none ↔
      ∀ block ∈ blocks, verdict? (f block) action target = none := by
  simp only [verdict?_eq_none, List.mem_flatMap]
  constructor
  · intro h block hblock rule hrule
    exact h rule ⟨block, hblock, hrule⟩
  · rintro h rule ⟨block, hblock, hrule⟩
    exact h block hblock rule hrule

/-- Of blocks of rules the last one that decides gives the verdict. -/
theorem verdict?_flatMap_eq_some :
    verdict? (blocks.flatMap f) action target = some effect ↔
      ∃ before block behind, blocks = before ++ block :: behind ∧
        verdict? (f block) action target = some effect ∧
        ∀ other ∈ behind, verdict? (f other) action target = none := by
  constructor
  · intro h
    induction blocks with
    | nil => cases h
    | cons block blocks ih =>
        rw [List.flatMap_cons, verdict?_append] at h
        rcases Option.or_eq_some_iff.mp h with h | ⟨hnone, h⟩
        · obtain ⟨before, last, behind, rfl, hlast, hbehind⟩ := ih h
          exact ⟨block :: before, last, behind, rfl, hlast, hbehind⟩
        · exact ⟨[], block, blocks, rfl, h, verdict?_flatMap_eq_none.mp hnone⟩
  · rintro ⟨before, block, behind, rfl, hblock, hbehind⟩
    rw [List.flatMap_append, List.flatMap_cons, verdict?_append, verdict?_append,
      verdict?_flatMap_eq_none.mpr hbehind, Option.none_or, hblock]
    rfl

/-- A rule about managing is about every action. -/
theorem Rule.applies_of_manage {rule : Rule} (h : rule.applies .manage target = true)
    (action : Action) : rule.applies action target = true := by
  have hmanage : rule.action = .manage := by
    rcases Action.covers_iff.mp (covers_of_applies h) with h | h <;> exact h
  have hconcerns : rule.concerns action target.resourceType = true := by
    rw [concerns, hmanage, Action.manage_covers, includes_of_applies h, Bool.and_self]
  cases target with
  | ofType t => exact applies_ofType.mpr ⟨hconcerns, (applies_ofType.mp h).2⟩
  | resource r => exact applies_resource.mpr ⟨hconcerns, (applies_resource.mp h).2⟩

/-- Where managing is decided, every action is. -/
theorem verdict?_ne_none_of_manage {rules : List Rule}
    (h : verdict? rules .manage target ≠ none) : verdict? rules action target ≠ none := by
  intro hnone
  refine h (verdict?_eq_none.mpr fun rule hrule => Bool.eq_false_iff.mpr fun happlies => ?_)
  cases (verdict?_eq_none.mp hnone rule hrule).symm.trans (Rule.applies_of_manage happlies action)

end Verdicts

/-! ## What is denied to one who manages a resource -/

namespace Bearer

variable {b : Bearer} {now : Instant} {role : BaseRole} {sources : GrantSources}
  {accesses : List DelegatedAccess} {action : Action} {target : Target} {r : Resource}

/-- The delegation hands over a role of the administrators' level, below the owners'. -/
def LendsAdministration (b : Bearer) (access : DelegatedAccess) : Prop :=
  ∃ lent, b.delegatedRole? access = some lent ∧
    RolePriority.admin ≤ lent.priority ∧ lent.priority < .owner

/-- The check is about a change of an owner's membership, and of the bearer's own role and the
delegations in force the last one that decides it is a role of the administrators' level. -/
structure Shielded (b : Bearer) (now : Instant) (role : BaseRole)
    (accesses : List DelegatedAccess) (action : Action) (target : Target) : Prop where
  shield : OwnerProtected action target
  last : (RolePriority.admin ≤ role.priority ∧ role.priority < .owner ∧
      ∀ access ∈ b.delegationsInForce now accesses,
        verdict? (b.delegationRules access) action target = none) ∨
    ∃ before access behind, b.delegationsInForce now accesses = before ++ access :: behind ∧
      b.LendsAdministration access ∧
      ∀ other ∈ behind, verdict? (b.delegationRules other) action target = none

/-- The role and the delegations deny what is shielded. -/
theorem verdict?_layers_eq_deny :
    verdict? (b.roleRules .role .escalation role ++
        (b.delegationsInForce now accesses).flatMap b.delegationRules) action target =
      some .deny ↔ b.Shielded now role accesses action target := by
  have hlends : ∀ access, verdict? (b.delegationRules access) action target = some .deny ↔
      b.LendsAdministration access ∧ OwnerProtected action target := by
    intro access
    simp only [verdict?_delegationRules_eq_deny, LendsAdministration, ← isAdmin_and_not_isOwner,
      exists_and_right, ← and_assoc]
  rw [verdict?_append, Option.or_eq_some_iff, verdict?_flatMap_eq_some, verdict?_flatMap_eq_none,
    verdict?_roleRules_eq_deny]
  simp only [hlends]
  constructor
  · rintro (⟨before, access, behind, hsplit, ⟨hlast, hshield⟩, hbehind⟩ |
      ⟨hnone, hadmin, howner, hshield⟩)
    · exact ⟨hshield, .inr ⟨before, access, behind, hsplit, hlast, hbehind⟩⟩
    · obtain ⟨hle, hlt⟩ := isAdmin_and_not_isOwner.mp ⟨hadmin, howner⟩
      exact ⟨hshield, .inl ⟨hle, hlt, hnone⟩⟩
  · rintro ⟨hshield, ⟨hle, hlt, hnone⟩ | ⟨before, access, behind, hsplit, hlast, hbehind⟩⟩
    · obtain ⟨hadmin, howner⟩ := isAdmin_and_not_isOwner.mpr ⟨hle, hlt⟩
      exact .inr ⟨hnone, hadmin, howner, hshield⟩
    · exact .inl ⟨before, access, behind, hsplit, ⟨hlast, hshield⟩, hbehind⟩

/-- The latest override in force about the action on the resource denies it, or there is none and
the resource is shielded. -/
def Withholds (b : Bearer) (now : Instant) (role : BaseRole) (sources : GrantSources)
    (action : Action) (r : Resource) : Prop :=
  (∃ o, IsLatest Override.age (b.overridesAbout now sources.overrides action r) o ∧
      o.granted = false) ∨
    b.overridesAbout now sources.overrides action r = [] ∧
      b.Shielded now role sources.delegations action (.resource r)

/-- Whoever manages a resource may do with it what is not withheld. -/
theorem permits_iff_not_withholds (hr : r.organization = b.organization)
    (hmanages : (b.ruleSet role sources now).permits .manage (.resource r) = true) :
    (b.ruleSet role sources now).permits action (.resource r) = true ↔
      ¬b.Withholds now role sources action r := by
  by_cases hnil : b.overridesAbout now sources.overrides action r = []
  · have hsilent := not_decides_of_overridesAbout_eq_nil hr hnil
    have hlayers : verdict? (memberRules b role sources now) action (.resource r) = _ :=
      verdict?_memberRules_of_not_decides hsilent
    have hdecided : verdict? (memberRules b role sources now) action (.resource r) ≠ none := by
      refine verdict?_ne_none_of_manage fun hnone => ?_
      cases (RuleSet.permits_iff.mp hmanages).2.symm.trans hnone
    have hwithheld : b.Withholds now role sources action r ↔
        b.Shielded now role sources.delegations action (.resource r) := by
      rw [Withholds, and_iff_right hnil]
      refine or_iff_right ?_
      rintro ⟨o, hlatest, -⟩
      have hmem := hlatest.mem
      rw [hnil] at hmem
      cases hmem
    rw [permits_iff_of_overridesAbout_eq_nil hr hnil, hwithheld, ← verdict?_layers_eq_deny]
    rw [hlayers] at hdecided
    cases hverdict : verdict? (b.roleRules .role .escalation role ++
        (b.delegationsInForce now sources.delegations).flatMap b.delegationRules) action
          (.resource r) with
    | none => exact absurd hverdict hdecided
    | some effect => cases effect <;> simp
  · obtain ⟨o, hlatest⟩ := exists_isLatest Override.age hnil
    rw [permits_of_isLatest hr hlatest]
    constructor
    · rintro hgranted (⟨o', hlatest', hdenied⟩ | ⟨hnone, -⟩)
      · have hsame : o = o' := Option.some.inj ((getLast?_mergeSort_of_isLatest hlatest).symm.trans
          (getLast?_mergeSort_of_isLatest hlatest'))
        cases hgranted.symm.trans (hsame ▸ hdenied)
      · exact hnil hnone
    · intro hnot
      refine Bool.eq_true_of_not_eq_false fun hdenied => ?_
      exact hnot (.inl ⟨o, hlatest, hdenied⟩)

end Bearer

/-! ## Where an override is issued and where it is managed -/

namespace Administration

variable {s : Setting} {b c : Backend} {actor : Actor} {g : Override} {p : Permission}
  {target : Target}

/-- An override that takes effect is about a resource of the type of its permission. -/
theorem ofName?_of_resolve? (hp : g.resolve? = some p) :
    ResourceType.ofName? g.resourceType = some p.resourceType := by
  rw [Override.resolve?, Option.bind_eq_bind, Option.bind_eq_some_iff] at hp
  obtain ⟨permission, -, hp⟩ := hp
  obtain ⟨t, htype, hp⟩ := Option.bind_eq_some_iff.mp hp
  split at hp
  · obtain rfl := Option.some.inj hp
    rw [htype, ‹permission.resourceType = t›]
  · cases hp

/-- An override that takes effect is managed where it would be issued. -/
theorem managedOn_of_issuedOn (hp : g.resolve? = some p)
    (h : IssuedOn b actor p.resourceType g.resourceId target) : managedOn b actor g = target := by
  rw [managedOn, ofName?_of_resolve? hp]
  rw [IssuedOn] at h
  split at h
  · rename_i hmembership
    obtain ⟨user, resource, hparsed, hresource, rfl⟩ := h
    simp only [hmembership, hparsed, hresource, Option.map_some, Option.getD_some]
  · rename_i hother
    rw [h]
    cases htype : p.resourceType with
    | membership => exact absurd htype hother
    | _ => rfl

/-- Where it could not be issued on any resource, it is managed by those who manage all members. -/
theorem managedOn_of_not_issuedOn (hp : g.resolve? = some p)
    (h : ∀ target, ¬IssuedOn b actor p.resourceType g.resourceId target) :
    managedOn b actor g = .ofType .membership := by
  have hmembership : p.resourceType = .membership := by
    by_contra hother
    refine h (.resource { resourceType := p.resourceType, id := g.resourceId,
                          organization := actor.organization }) ?_
    rw [IssuedOn, if_neg hother]
  rw [managedOn, ofName?_of_resolve? hp, hmembership]
  cases hparsed : (Id.parse g.resourceId : Outcome UserId) with
  | error fault => rfl
  | ok user =>
      cases hresource : membershipOf? b actor user with
      | none => simp [hresource]
      | some resource =>
          refine absurd ?_ (h (.resource resource))
          rw [IssuedOn, if_pos hmembership]
          exact ⟨user, resource, hparsed, hresource, rfl⟩

/-- What is found as the resource of an override is what the override is issued on. -/
theorem issuedOn_of_overrideTarget {t : ResourceType} {resourceId : String}
    (h : (b.run (overrideTarget actor t resourceId)).1 = .ok target) :
    IssuedOn b actor t resourceId target := by
  rcases hfinds : b.run (overrideTarget actor t resourceId) with ⟨found, d⟩
  obtain rfl : found = .ok target := by rw [← h, hfinds]
  -- The search asks for no setting, so any will do.
  have hlearns : Learns { now := ⟨0⟩ } b (overrideTarget actor t resourceId) _ :=
    learns_overrideTarget _ _
  exact (Ends.of_run hlearns hfinds).2

/-- The resource on which an override is issued is found. -/
theorem finishes_overrideTarget {t : ResourceType} {resourceId : String} (hworking : b.broken = [])
    (hc : Calm s b c) (h : IssuedOn b actor t resourceId target) :
    Finishes c (overrideTarget actor t resourceId) fun found d => Calm s b d ∧ found = target := by
  rw [IssuedOn] at h
  rw [overrideTarget]
  split at h
  · rename_i hmembership
    obtain ⟨user, resource, hparsed, hresource, rfl⟩ := h
    rw [if_pos hmembership, hparsed]
    have hlearns : Learns s b (membershipResource? actor user) _ := learns_membershipResource? user
    refine (hlearns.finishes (sure_membershipResource? user) hworking hc).bind fun found d hd => ?_
    obtain ⟨hd, rfl⟩ := hd
    rw [hresource]
    exact Finishes.pure ⟨hd, rfl⟩
  · rename_i hother
    rw [if_neg hother]
    exact Finishes.pure ⟨hc, h.symm⟩

/-- Whoever extends an override manages its resource, and may do there whatever the override is
about, but for what is withheld.  Where the resource cannot be told, the extender manages all
members. -/
theorem permits_of_extendOverride {id : OverrideId} {expiresAt now : Instant} {o : Override}
    {sources : GrantSources}
    (hrules : b.rules s actor.organization actor.user =
      resolve (some actor.user) actor.organization sources now)
    (hfound : b.store.findOverride actor.organization id = some g) (hp : g.resolve? = some p)
    (hrun : b.run (extendOverride s actor id expiresAt) = (.ok o, c)) :
    (resolve (some actor.user) actor.organization sources now).permits .manage
        (managedOn b actor g) = true ∧
    ∃ role, sources.baseRole? actor.user actor.organization = some role ∧
      (∀ target, (b.run (overrideTarget actor p.resourceType g.resourceId)).1 = .ok target →
        ∃ r : Resource, target = .resource r ∧ managedOn b actor g = target ∧
          ∀ action ∈ p.coveredActions,
            (resolve (some actor.user) actor.organization sources now).permits action target =
                true ↔
              ¬(sources.bearer actor.user actor.organization now).Withholds now role sources action
                r) ∧
      (b.broken = [] → ∀ fault,
        (b.run (overrideTarget actor p.resourceType g.resourceId)).1 = .error fault →
          managedOn b actor g = .ofType .membership) := by
  have hmanages : (resolve (some actor.user) actor.organization sources now).permits .manage
      (managedOn b actor g) = true := by
    have hextended : OverrideExtended b s actor id expiresAt o c.store :=
      (ends_extendOverride id expiresAt).of_run hrun
    obtain ⟨stored, hmanaged, -⟩ := hextended.stored
    obtain rfl : g = stored := Option.some.inj (hfound.symm.trans hmanaged.found)
    rw [← hrules]
    exact hmanaged.managed
  obtain ⟨role, hrole⟩ : ∃ role, sources.baseRole? actor.user actor.organization = some role := by
    refine Option.ne_none_iff_exists'.mp fun hnone => ?_
    rw [resolve_of_baseRole?_eq_none now hnone] at hmanages
    cases guest_reads hmanages
  refine ⟨hmanages, role, hrole, ?_, ?_⟩
  · intro target htarget
    have hissued := issuedOn_of_overrideTarget htarget
    have hsame := managedOn_of_issuedOn hp hissued
    obtain ⟨r, rfl, -, hr, -⟩ := exists_resource_of_issuedOn hissued
    refine ⟨r, rfl, hsame, fun action _ => ?_⟩
    rw [hsame, resolve_of_baseRole? now hrole] at hmanages
    rw [resolve_of_baseRole? now hrole]
    exact Bearer.permits_iff_not_withholds hr hmanages
  · intro hworking fault hfault
    refine managedOn_of_not_issuedOn hp fun target hissued => ?_
    obtain ⟨found, d, hfinds, -⟩ := finishes_overrideTarget (s := s) hworking .refl hissued
    rw [hfinds] at hfault
    cases hfault

end Administration

/-! ## An administrator and an owner's membership -/

namespace Sample

/-- The viewer may do something with one resource for a time. -/
def timed (permission : Permission) (resourceId : String) : Override :=
  { exception 1 viewer permission resourceId true with expiresAt := some ⟨1⟩ }

def timedBackend (permission : Permission) (resourceId : String) : Backend :=
  { backend with store := store.putOverride (timed permission resourceId) }

end Sample

open Sample

/-- The administrator lets the viewer change a task for longer, and may change it. -/
theorem admin_prolongs_access_to_task :
    (∃ c, (timedBackend ⟨.task, .update⟩ "7").run
        (extendOverride { now := ⟨0⟩ } (actor admin) (timed ⟨.task, .update⟩ "7").id ⟨2⟩) =
          (.ok { timed ⟨.task, .update⟩ "7" with expiresAt := some ⟨2⟩ }, c)) ∧
      ((timedBackend ⟨.task, .update⟩ "7").store.rules organization admin ⟨0⟩).permits .update
        (.resource (task "7")) = true := by
  have hrun : (timedBackend ⟨.task, .update⟩ "7").run
      (extendOverride { now := ⟨0⟩ } (actor admin) (timed ⟨.task, .update⟩ "7").id ⟨2⟩) =
        (.ok { timed ⟨.task, .update⟩ "7" with expiresAt := some ⟨2⟩ }, _) :=
    Prod.ext (by decide +kernel) rfl
  refine ⟨⟨_, hrun⟩, ?_⟩
  obtain ⟨-, role, -, hissued, -⟩ := permits_of_extendOverride (g := timed ⟨.task, .update⟩ "7")
    (p := ⟨.task, .update⟩) (Backend.rules_of_no_cache rfl organization admin) (by decide +kernel)
    (by decide +kernel) hrun
  obtain ⟨r, hr, -, hpermitted⟩ := hissued (.resource (task "7")) rfl
  obtain rfl := Target.resource.inj hr
  refine (hpermitted .update (by decide)).mpr ?_
  rintro (⟨o, hlatest, -⟩ | ⟨-, hshielded⟩)
  · cases hlatest.mem
  · obtain ⟨r, hr, htype, -⟩ := hshielded.shield.target
    obtain rfl := Target.resource.inj hr
    cases htype

/-- The administrator lets the viewer change the owner's role for longer, and may not change it: the
same override is not granted by the administrator. -/
theorem admin_prolongs_change_of_owner :
    let b := timedBackend ⟨.membership, .changeRole⟩ owner.toString
    let g := timed ⟨.membership, .changeRole⟩ owner.toString
    let target := Target.resource (.ofMembership organization owner ownerRoleKey)
    (∃ c, b.run (extendOverride { now := ⟨0⟩ } (actor admin) g.id ⟨2⟩) =
        (.ok { g with expiresAt := some ⟨2⟩ }, c)) ∧
      g.user ≠ admin ∧ g.resolve? = some ⟨.membership, .changeRole⟩ ∧
      (b.run (overrideTarget (actor admin) .membership g.resourceId)).1 = .ok target ∧
      (b.store.rules organization admin ⟨0⟩).permits .manage target = true ∧
      (b.store.rules organization admin ⟨0⟩).permits .changeRole target = false ∧
      (b.run (grantOverride { now := ⟨0⟩ } (actor admin)
          { user := viewer, permission := ⟨.membership, .changeRole⟩, resourceId := g.resourceId,
            granted := true, expiresAt := some ⟨2⟩ })).1 =
        .error (.notPermitted admin "change_role" "membership" organization) :=
  ⟨⟨_, Prod.ext (by decide +kernel) rfl⟩, by decide, by decide +kernel, by decide +kernel,
    by decide +kernel, by decide +kernel, by decide +kernel⟩

end AccessControl

import AccessControl.Proofs.WholeTypes

/-!
# Overrides win, and touch nothing else

Overrides are the last layer of a rule set.  Of those in force that are about an action on a
resource the latest decides, whatever the role and the delegations say
(`Bearer.explain_of_isLatest`).  On any other check the rule of an override does not apply, so the
answer is the one without it (`Bearer.explain_without`).  A type as a whole is no resource: there
the rule of a denial does not apply, and that of a grant can only add to what is permitted.
-/

namespace AccessControl

/-- The override is about the action on the resource: it names what is known, its permission covers
the action, and its resource is the one in question. -/
def Override.isAbout (o : Override) (action : Action) (r : Resource) : Bool :=
  (o.resolve?.any fun p => p.action.covers action && p.resourceType = r.resourceType) &&
    o.resourceId = r.id

theorem Override.isAbout_iff {o : Override} {action : Action} {r : Resource} :
    o.isAbout action r = true ↔ ∃ p, o.resolve? = some p ∧ p.action.covers action = true ∧
      p.resourceType = r.resourceType ∧ o.resourceId = r.id := by
  simp only [isAbout, Bool.and_eq_true, Option.any_eq_true, decide_eq_true_eq]
  constructor
  · rintro ⟨⟨p, hp, hcovers, htype⟩, hid⟩
    exact ⟨p, hp, hcovers, htype, hid⟩
  · rintro ⟨p, hp, hcovers, htype, hid⟩
    exact ⟨⟨p, hp, hcovers, htype⟩, hid⟩

/-- The sources without an override. -/
def GrantSources.without (sources : GrantSources) (o : Override) : GrantSources :=
  { sources with overrides := sources.overrides.filter fun other => other ≠ o }

/-! ## The layer of the overrides -/

namespace Bearer

variable {b : Bearer} {now : Instant} {os : List Override} {o : Override}
variable {action : Action} {target : Target} {r : Resource}

/-- The rule of the override applies to the check. -/
def decides (b : Bearer) (action : Action) (target : Target) (o : Override) : Bool :=
  (b.overrideRule? o).any fun rule => rule.applies action target

/-- On a resource of the organization the overrides about it decide. -/
theorem decides_resource (h : r.organization = b.organization) :
    b.decides action (.resource r) o = o.isAbout action r := by
  rw [decides, overrideRule?, Override.isAbout]
  cases o.resolve? with
  | none => rfl
  | some p =>
      simp [Rule.applies, Rule.concerns, RuleCondition.holds, h, eq_comm (a := r.id)]

/-- On a type only a grant can decide. -/
theorem not_decides_ofType_of_denial {t : ResourceType} (h : o.granted = false) :
    b.decides action (.ofType t) o = false := by
  rw [decides, overrideRule?]
  cases o.resolve? with
  | none => rfl
  | some p => simp [Rule.applies, h]

/-- An override decides about nothing but its own resource and the type of that one. -/
theorem not_decides {p : Permission} (hp : o.resolve? = some p)
    (hresource : ∀ r, target = .resource r →
      ¬(r.resourceType = p.resourceType ∧ r.id = o.resourceId))
    (htype : target ≠ .ofType p.resourceType) : b.decides action target o = false := by
  rw [decides, overrideRule?, hp, Option.map_some, Option.any_some]
  refine Bool.eq_false_iff.mpr ?_
  intro happlies
  have hincludes : p.resourceType = target.resourceType :=
    of_decide_eq_true (Rule.includes_of_applies happlies)
  cases target with
  | ofType t => exact htype (congrArg Target.ofType hincludes.symm)
  | resource r =>
      have hholds := (Rule.applies_resource.mp happlies).2 (.isResource o.resourceId) (by simp)
      exact hresource r rfl ⟨hincludes.symm, of_decide_eq_true hholds⟩

/-- The overrides in force about an action on a resource. -/
def overridesAbout (b : Bearer) (now : Instant) (os : List Override) (action : Action)
    (r : Resource) : List Override :=
  os.filter fun o => b.isExcepted now o && o.isAbout action r

theorem mem_overridesAbout :
    o ∈ b.overridesAbout now os action r ↔
      o ∈ os ∧ b.isExcepted now o = true ∧ o.isAbout action r = true := by
  simp [overridesAbout]

/-- Where no override is about the action on the resource, none in force decides. -/
theorem not_decides_of_overridesAbout_eq_nil (hr : r.organization = b.organization)
    (h : b.overridesAbout now os action r = []) :
    ∀ o ∈ os, b.isExcepted now o = true → b.decides action (.resource r) o = false := by
  intro o ho hexcepted
  rw [decides_resource hr]
  refine Bool.eq_false_iff.mpr ?_
  intro habout
  have hmem := mem_overridesAbout.mpr ⟨ho, hexcepted, habout⟩
  rw [h] at hmem
  cases hmem

/-- The last rule of the layer that applies is that of the last override in order that decides. -/
theorem lastApplying?_overrideLayer (b : Bearer) (now : Instant) (os : List Override)
    (action : Action) (target : Target) :
    lastApplying? (b.overrideLayer now os) action target =
      ((os.filter fun o => b.isExcepted now o && b.decides action target o).mergeSort
        fun a b => comesBefore a.age b.age).getLast?.bind b.overrideRule? := by
  have hsorted := filter_mergeSort (fun a b c => comesBefore_trans (Override.age a) b.age c.age)
    (fun a b => comesBefore_total (Override.age a) b.age) (b.decides action target)
    (os.filter (b.isExcepted now))
  rw [List.filter_filter] at hsorted
  simp only [Bool.and_comm (b.isExcepted now _)]
  rw [← hsorted, List.getLast?_filter, overrideLayer, ← List.filterMap_eq_flatMap_toList,
    lastApplying?, ← List.filterMap_reverse, List.find?_filterMap]
  rfl

/-- The latest override about the action on the resource decides in the layer. -/
theorem lastApplying?_overrideLayer_of_isLatest (hr : r.organization = b.organization)
    (h : IsLatest Override.age (b.overridesAbout now os action r) o) :
    lastApplying? (b.overrideLayer now os) action (.resource r) = b.overrideRule? o := by
  simp only [lastApplying?_overrideLayer, decides_resource hr]
  rw [← overridesAbout, getLast?_mergeSort_of_isLatest h, Option.bind_some]

theorem lastApplying?_overrideLayer_eq_none
    (h : ∀ o ∈ os, b.isExcepted now o = true → b.decides action target o = false) :
    lastApplying? (b.overrideLayer now os) action target = none := by
  have hnil : os.filter (fun o => b.isExcepted now o && b.decides action target o) = [] := by
    refine List.filter_eq_nil_iff.mpr ?_
    intro o ho hboth
    rw [Bool.and_eq_true] at hboth
    rw [h o ho hboth.1] at hboth
    cases hboth.2
  rw [lastApplying?_overrideLayer, hnil, List.mergeSort_nil]
  rfl

/-! ## All layers -/

variable {role : BaseRole} {sources : GrantSources}

/-- Where an override does not decide, the same rule applies last without it. -/
theorem lastApplying?_memberRules_without (h : b.decides action target o = false) :
    lastApplying? (memberRules b role (sources.without o) now) action target =
      lastApplying? (memberRules b role sources now) action target := by
  have hlayer : lastApplying? (b.overrideLayer now (sources.without o).overrides) action target =
      lastApplying? (b.overrideLayer now sources.overrides) action target := by
    rw [lastApplying?_overrideLayer, lastApplying?_overrideLayer, GrantSources.without,
      List.filter_filter]
    congr 3
    refine List.filter_congr ?_
    intro other _
    by_cases hother : other = o
    · rw [hother, h]
      simp
    · simp [hother]
  simp only [memberRules_eq, lastApplying?_append]
  rw [hlayer]
  rfl

/-- Where no override decides, the role and the delegations do. -/
theorem verdict?_memberRules_of_not_decides
    (h : ∀ o ∈ sources.overrides, b.isExcepted now o = true → b.decides action target o = false) :
    verdict? (memberRules b role sources now) action target =
      verdict? (b.roleRules .role .escalation role ++
        (b.delegationsInForce now sources.delegations).flatMap b.delegationRules)
          action target := by
  rw [memberRules_eq, verdict?_eq_map, lastApplying?_append,
    lastApplying?_overrideLayer_eq_none h]
  rfl

/-- The latest override about the action on the resource gives the answer. -/
theorem explain_of_isLatest (hr : r.organization = b.organization)
    (h : IsLatest Override.age (b.overridesAbout now sources.overrides action r) o) :
    (b.ruleSet role sources now).explain action (.resource r) = ⟨o.granted, some .override⟩ := by
  have hreach : (Target.resource r).within (b.ruleSet role sources now).organization = true := by
    simp [Target.within, ruleSet, hr]
  obtain ⟨p, hp, -⟩ := Override.isAbout_iff.mp (mem_overridesAbout.mp h.mem).2.2
  have hlast := lastApplying?_overrideLayer_of_isLatest hr h
  rw [overrideRule?, hp, Option.map_some] at hlast
  rw [RuleSet.explain_of_within hreach, ruleSet, memberRules_eq, lastApplying?_append, hlast]
  cases hgranted : o.granted <;> simp [Explanation.ofRule]

theorem permits_of_isLatest (hr : r.organization = b.organization)
    (h : IsLatest Override.age (b.overridesAbout now sources.overrides action r) o) :
    (b.ruleSet role sources now).permits action (.resource r) = o.granted := by
  rw [RuleSet.permits, explain_of_isLatest hr h]

/-- Where no override is about the action on the resource, the role and the delegations decide. -/
theorem permits_iff_of_overridesAbout_eq_nil (hr : r.organization = b.organization)
    (h : b.overridesAbout now sources.overrides action r = []) :
    (b.ruleSet role sources now).permits action (.resource r) = true ↔
      verdict? (b.roleRules .role .escalation role ++
        (b.delegationsInForce now sources.delegations).flatMap b.delegationRules) action
          (.resource r) = some .grant := by
  have hsilent := not_decides_of_overridesAbout_eq_nil hr h
  rw [RuleSet.permits_iff, ruleSet, verdict?_memberRules_of_not_decides hsilent]
  exact and_iff_right (by simp [Target.within, hr])

/-- The answer to a check that an override does not decide is the one without it. -/
theorem explain_without (h : b.decides action target o = false) :
    (b.ruleSet role (sources.without o) now).explain action target =
      (b.ruleSet role sources now).explain action target :=
  RuleSet.explain_congr rfl (lastApplying?_memberRules_without h)

end Bearer

/-! ## Rule sets of members -/

section Resolved

variable {user : UserId} {organization : OrganizationId} {sources : GrantSources} {now : Instant}
variable {role : BaseRole} {o : Override} {action : Action}

/-- The answer to a check that an override does not decide is the one without it. -/
theorem resolve_explain_without {target : Target}
    (hrole : sources.baseRole? user organization = some role)
    (h : (sources.bearer user organization now).decides action target o = false) :
    (resolve (some user) organization (sources.without o) now).explain action target =
      (resolve (some user) organization sources now).explain action target := by
  have hrole' : (sources.without o).baseRole? user organization = some role := hrole
  rw [resolve_of_baseRole? now hrole, resolve_of_baseRole? now hrole']
  exact Bearer.explain_without h

/-- A type that is permitted without an override is permitted with it. -/
theorem resolve_permits_ofType_of_without {t : ResourceType}
    (hrole : sources.baseRole? user organization = some role)
    (h : (resolve (some user) organization (sources.without o) now).permits action (.ofType t) =
      true) :
    (resolve (some user) organization sources now).permits action (.ofType t) = true := by
  have hrole' : (sources.without o).baseRole? user organization = some role := hrole
  rw [resolve_permits_ofType_iff, resolve_of_baseRole? now hrole'] at h
  obtain ⟨rule, hrule, hgrant⟩ := h
  rw [resolve_permits_ofType_iff, resolve_of_baseRole? now hrole]
  refine ⟨rule, Bearer.mem_memberRules.mpr ?_, hgrant⟩
  rcases Bearer.mem_memberRules.mp hrule with hrule | hrule | ⟨other, hother, hrule⟩
  · exact .inl hrule
  · exact .inr (.inl hrule)
  · exact .inr (.inr ⟨other, (List.mem_filter.mp hother).1, hrule⟩)

/-- An override in force decides about what its permission covers on its resource, unless one of a
later age is about that too.  Other resources and other types are answered for as without it.  On
its type a denial changes nothing, and a grant takes nothing away. -/
theorem resolve_explain_override {p : Permission}
    (hrole : sources.baseRole? user organization = some role)
    (hdistinct : (sources.overrides.map Override.id).Nodup) (ho : o ∈ sources.overrides)
    (hexcepted : (sources.bearer user organization now).isExcepted now o = true)
    (hp : o.resolve? = some p) :
    (∀ action r, p.action.covers action = true → r.resourceType = p.resourceType →
      r.organization = organization → r.id = o.resourceId →
      (∀ other ∈ sources.overrides,
        (sources.bearer user organization now).isExcepted now other = true →
        other.isAbout action r = true → comesBefore other.age o.age = true) →
      (resolve (some user) organization sources now).explain action (.resource r) =
        ⟨o.granted, some .override⟩) ∧
    (∀ action target,
      (∀ r, target = .resource r → ¬(r.resourceType = p.resourceType ∧ r.id = o.resourceId)) →
      target ≠ .ofType p.resourceType →
      (resolve (some user) organization (sources.without o) now).explain action target =
        (resolve (some user) organization sources now).explain action target) ∧
    ∀ action,
      (o.granted = false →
        (resolve (some user) organization (sources.without o) now).explain action
            (.ofType p.resourceType) =
          (resolve (some user) organization sources now).explain action (.ofType p.resourceType)) ∧
      ((resolve (some user) organization (sources.without o) now).permits action
          (.ofType p.resourceType) = true →
        (resolve (some user) organization sources now).permits action (.ofType p.resourceType) =
          true) := by
  refine ⟨?_, ?_, ?_⟩
  · intro action r hcovers htype horganization hid hlatest
    rw [resolve_of_baseRole? now hrole]
    refine Bearer.explain_of_isLatest horganization (isLatest_of_forall ?_ ?_ ?_)
    · exact hdistinct.sublist (List.filter_sublist.map _)
    · exact Bearer.mem_overridesAbout.mpr
        ⟨ho, hexcepted, Override.isAbout_iff.mpr ⟨p, hp, hcovers, htype.symm, hid.symm⟩⟩
    · intro other hother
      obtain ⟨hmem, hcounts, habout⟩ := Bearer.mem_overridesAbout.mp hother
      exact hlatest other hmem hcounts habout
  · intro action target hresource htype
    exact resolve_explain_without hrole (Bearer.not_decides hp hresource htype)
  · intro action
    constructor
    · intro hdenied
      exact resolve_explain_without hrole (Bearer.not_decides_ofType_of_denial hdenied)
    · exact resolve_permits_ofType_of_without hrole

end Resolved

/-! ## An owner with exceptions -/

namespace Sample

def task (id : String) : Resource := { resourceType := .task, id, organization }

/-- An owner may do everything about one task, and then may no longer change it. -/
def exceptedSources : GrantSources :=
  { store.sources organization owner with
    overrides := [exception 1 owner ⟨.task, .manage⟩ "7" true,
      exception 2 owner ⟨.task, .update⟩ "7" false] }

end Sample

open Sample

/-- The later override wins over the owner's role and over the other override, and other tasks are
as without it. -/
theorem owner_denied_excepted_task :
    (resolve (some owner) organization exceptedSources ⟨0⟩).explain .update (.resource (task "7")) =
        ⟨false, some .override⟩ ∧
      (resolve (some owner) organization
          (exceptedSources.without (exception 2 owner ⟨.task, .update⟩ "7" false)) ⟨0⟩).explain
            .update (.resource (task "8")) =
        (resolve (some owner) organization exceptedSources ⟨0⟩).explain .update
          (.resource (task "8")) := by
  have hrole : exceptedSources.baseRole? owner organization = some (.ofLegacy .owner) := rfl
  have hexcepted : (exceptedSources.bearer owner organization ⟨0⟩).isExcepted ⟨0⟩
      (exception 2 owner ⟨.task, .update⟩ "7" false) = true := by decide
  obtain ⟨hwins, hothers, -⟩ := resolve_explain_override (p := ⟨.task, .update⟩) hrole (by decide)
    (by decide) hexcepted (by decide)
  constructor
  · refine hwins .update (task "7") (by decide) rfl rfl rfl ?_
    intro other hother _ _
    revert other
    decide
  · refine hothers .update (.resource (task "8")) ?_ (by rintro ⟨⟩)
    rintro r hr ⟨-, hid⟩
    obtain rfl := Target.resource.inj hr
    exact absurd hid (by decide)

end AccessControl

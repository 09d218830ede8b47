import AccessControl.Rule

/-!
# Verdicts of lists of rules

Rule sets are built by appending, and the last rule that applies decides.  The verdict of a list
is the effect of that rule, so the verdict of two lists one behind the other is the verdict of the
second, or of the first where the second has none.  All that is said about permitted checks goes
through this law.

The second part relates the two ways in which a rule set is read: what is granted without
conditions is permitted on every target.
-/

namespace AccessControl

/-- The last rule that applies to a check. -/
def lastApplying? (rules : List Rule) (action : Action) (target : Target) : Option Rule :=
  rules.reverse.find? fun rule => rule.applies action target

/-- The effect of the last rule that applies to a check. -/
def verdict? (rules : List Rule) (action : Action) (target : Target) : Option Effect :=
  (rules.reverse.find? fun rule => rule.applies action target).map (·.effect)

section Verdict

variable {rules earlier later : List Rule} {action : Action} {target : Target}

/-- What is appended later decides. -/
theorem lastApplying?_append :
    lastApplying? (earlier ++ later) action target =
      (lastApplying? later action target).or (lastApplying? earlier action target) := by
  rw [lastApplying?, List.reverse_append, List.find?_append]
  rfl

theorem mem_of_lastApplying? {rule : Rule} (h : lastApplying? rules action target = some rule) :
    rule ∈ rules :=
  List.mem_reverse.mp (List.mem_of_find?_eq_some h)

theorem applies_of_lastApplying? {rule : Rule}
    (h : lastApplying? rules action target = some rule) : rule.applies action target = true :=
  List.find?_some (p := fun rule : Rule => rule.applies action target) h

theorem verdict?_eq_map :
    verdict? rules action target = (lastApplying? rules action target).map (·.effect) := rfl

@[simp] theorem verdict?_nil : verdict? [] action target = none := rfl

/-- What is appended later wins. -/
theorem verdict?_append :
    verdict? (earlier ++ later) action target =
      (verdict? later action target).or (verdict? earlier action target) := by
  rw [verdict?_eq_map, lastApplying?_append, Option.map_or]
  rfl

theorem verdict?_singleton (rule : Rule) :
    verdict? [rule] action target =
      if rule.applies action target then some rule.effect else none := by
  by_cases h : rule.applies action target <;> simp [verdict?, h]

theorem verdict?_eq_none :
    verdict? rules action target = none ↔ ∀ rule ∈ rules, rule.applies action target = false := by
  simp [verdict?]

/-- A verdict comes from a rule of the list. -/
theorem exists_rule_of_verdict? {effect : Effect}
    (h : verdict? rules action target = some effect) :
    ∃ rule ∈ rules, rule.applies action target = true ∧ rule.effect = effect := by
  rw [verdict?_eq_map] at h
  obtain ⟨rule, hlast, heffect⟩ := Option.map_eq_some_iff.mp h
  exact ⟨rule, mem_of_lastApplying? hlast, applies_of_lastApplying? hlast, heffect⟩

/-- Where all rules that apply agree, so does the verdict. -/
theorem verdict?_of_forall {effect : Effect}
    (h : ∀ rule ∈ rules, rule.applies action target = true → rule.effect = effect) :
    verdict? rules action target = none ∨ verdict? rules action target = some effect := by
  cases hv : verdict? rules action target with
  | none => exact .inl rfl
  | some found =>
      obtain ⟨rule, hmem, happlies, rfl⟩ := exists_rule_of_verdict? hv
      exact .inr (congrArg some (h rule hmem happlies))

/-- Where some rule applies and all that apply agree, that is the verdict. -/
theorem verdict?_eq_of_mem {effect : Effect} {rule : Rule} (hrule : rule ∈ rules)
    (happlies : rule.applies action target = true)
    (h : ∀ rule ∈ rules, rule.applies action target = true → rule.effect = effect) :
    verdict? rules action target = some effect := by
  rcases verdict?_of_forall h with hnone | hsome
  · rw [verdict?_eq_none.mp hnone rule hrule] at happlies
    cases happlies
  · exact hsome

/-- A list grants nothing on a check when none of its grants applies to it. -/
theorem verdict?_ne_grant_of_forall
    (h : ∀ rule ∈ rules, rule.applies action target = true → rule.effect = .deny) :
    verdict? rules action target ≠ some .grant := by
  rcases verdict?_of_forall h with h | h <;> simp [h]

/-- Two lists neither of which has a verdict do not have it together. -/
theorem verdict?_append_ne {effect : Effect}
    (hearlier : verdict? earlier action target ≠ some effect)
    (hlater : verdict? later action target ≠ some effect) :
    verdict? (earlier ++ later) action target ≠ some effect := by
  rw [verdict?_append]
  intro h
  rcases Option.or_eq_some_iff.mp h with h | ⟨-, h⟩
  · exact hlater h
  · exact hearlier h

/-- Blocks of rules none of which has a verdict do not have it together. -/
theorem verdict?_flatMap_ne {effect : Effect} {α : Type} {blocks : List α} {f : α → List Rule}
    (h : ∀ block ∈ blocks, verdict? (f block) action target ≠ some effect) :
    verdict? (blocks.flatMap f) action target ≠ some effect := by
  induction blocks with
  | nil => simp
  | cons block blocks ih =>
      rw [List.flatMap_cons]
      exact verdict?_append_ne (h block (by simp))
        (ih fun other hother => h other (by simp [hother]))

/-- A verdict stays when nothing behind it has the other one. -/
theorem verdict?_append_of_ne {effect other : Effect} (hne : effect ≠ other)
    (hearlier : verdict? earlier action target = some effect)
    (hlater : verdict? later action target ≠ some other) :
    verdict? (earlier ++ later) action target = some effect := by
  rw [verdict?_append, hearlier]
  cases h : verdict? later action target with
  | none => rfl
  | some found =>
      have hfound : found ≠ other := by
        rintro rfl
        exact hlater h
      cases effect <;> cases other <;> cases found <;> simp_all

end Verdict

/-! ## Rules that apply -/

namespace Target

/-- A rule set of an organization can be asked about a target: types are everywhere, resources in
their own organization. -/
def within (organization : OrganizationId) (target : Target) : Bool :=
  target.resource?.all fun r => r.organization = organization

end Target

namespace Rule

variable {rule : Rule} {action : Action} {target : Target}

theorem applies_ofType {t : ResourceType} :
    rule.applies action (.ofType t) = true ↔
      rule.concerns action t = true ∧ (rule.conditions = [] ∨ rule.effect = .grant) := by
  simp [applies]

theorem applies_resource {r : Resource} :
    rule.applies action (.resource r) = true ↔
      rule.concerns action r.resourceType = true ∧ ∀ c ∈ rule.conditions, c.holds r = true := by
  simp [applies]

theorem concerns_of_applies (h : rule.applies action target = true) :
    rule.concerns action target.resourceType = true := by
  cases target with
  | ofType t => exact (applies_ofType.mp h).1
  | resource r => exact (applies_resource.mp h).1

theorem covers_of_applies (h : rule.applies action target = true) :
    rule.action.covers action = true := by
  have := concerns_of_applies h
  rw [concerns, Bool.and_eq_true] at this
  exact this.1

theorem includes_of_applies (h : rule.applies action target = true) :
    rule.subject.includes target.resourceType = true := by
  have := concerns_of_applies h
  rw [concerns, Bool.and_eq_true] at this
  exact this.2

/-- Without conditions a rule applies wherever it is about the action and the type. -/
theorem applies_of_unconditional (hconditions : rule.conditions = [])
    (h : rule.concerns action target.resourceType = true) :
    rule.applies action target = true := by
  cases target with
  | ofType t => exact applies_ofType.mpr ⟨h, .inl hconditions⟩
  | resource r => exact applies_resource.mpr ⟨h, by simp [hconditions]⟩

end Rule

/-! ## Permitted checks -/

namespace RuleSet

variable {s : RuleSet} {action : Action} {target : Target}

/-- Within reach the last rule that applies explains the answer. -/
theorem explain_of_within (h : target.within s.organization = true) :
    s.explain action target =
      ((lastApplying? s.rules action target).map .ofRule).getD .byDefault := by
  cases target with
  | ofType t => rfl
  | resource r =>
      have horganization : r.organization = s.organization := by simpa [Target.within] using h
      rw [explain, Target.resource?_resource, Option.any_some, horganization]
      simp [lastApplying?, deciding?]

theorem explain_of_not_within (h : target.within s.organization = false) :
    s.explain action target = .byDefault := by
  cases target with
  | ofType t => cases h
  | resource r =>
      have horganization : r.organization ≠ s.organization := by simpa [Target.within] using h
      simp [explain, horganization]

/-- The answer depends on the rules only through the last one that applies. -/
theorem explain_congr {s' : RuleSet} (horganization : s.organization = s'.organization)
    (hlast : lastApplying? s.rules action target = lastApplying? s'.rules action target) :
    s.explain action target = s'.explain action target := by
  cases hreach : target.within s.organization with
  | false =>
      rw [explain_of_not_within hreach, explain_of_not_within (horganization ▸ hreach)]
  | true =>
      rw [explain_of_within hreach, explain_of_within (horganization ▸ hreach), hlast]

/-- A check is permitted when the target is within reach and the verdict is a grant. -/
theorem permits_iff :
    s.permits action target = true ↔
      target.within s.organization = true ∧ verdict? s.rules action target = some .grant := by
  rw [permits]
  cases hreach : target.within s.organization with
  | false => simp [explain_of_not_within hreach, Explanation.byDefault]
  | true =>
      rw [explain_of_within hreach, verdict?_eq_map]
      cases lastApplying? s.rules action target <;>
        simp [Explanation.byDefault, Explanation.ofRule]

theorem not_permits_of_verdict? (h : verdict? s.rules action target ≠ some .grant) :
    s.permits action target = false := by
  rw [← Bool.not_eq_true, permits_iff]
  exact fun hpermits => h hpermits.2

end RuleSet

/-! ## What is granted without conditions -/

theorem Action.covers_iff {a b : Action} : a.covers b = true ↔ a = .manage ∨ a = b := by
  simp [Action.covers]

/-- All that a permission of a catalogued action covers is among its covered actions. -/
theorem Permission.mem_coveredActions {p : Permission} {action : Action}
    (hcovers : p.action.covers action = true)
    (hcataloged : (⟨p.resourceType, action⟩ : Permission).isCataloged = true) :
    action ∈ p.coveredActions := by
  rw [Permission.coveredActions]
  split
  · simpa [Permission.isCataloged] using hcataloged
  · rename_i hmanage
    rcases Action.covers_iff.mp hcovers with h | h
    · exact absurd h hmanage
    · simp [h]

namespace RuleSet

variable {s : RuleSet} {action : Action} {target : Target}

/-- Behind a grant without conditions come only grants, so that every check about the action and
the type is decided by a grant. -/
theorem verdict?_of_settling? {rule : Rule}
    (h : s.settling? action target.resourceType = some rule) (hgrant : rule.effect = .grant) :
    verdict? s.rules action target = some .grant := by
  rw [settling?, List.find?_filter, List.find?_eq_some_iff_append] at h
  obtain ⟨hsettles, newer, older, hrules, hnewer⟩ := h
  simp only [Bool.or_eq_true, decide_eq_true_eq, hgrant, reduceCtorEq, false_or,
    List.isEmpty_iff] at hsettles
  have happlies : rule.applies action target = true :=
    Rule.applies_of_unconditional hsettles.2 hsettles.1
  rw [verdict?, hrules, List.find?_append, Option.map_or]
  cases hfound : newer.find? fun rule => rule.applies action target with
  | none => simp [happlies, hgrant]
  | some newest =>
      -- A newer rule that applies was passed over, so it is no denial.
      have hpassed := hnewer newest (List.mem_of_find?_eq_some hfound)
      have hnewest := List.find?_some (p := fun rule : Rule => rule.applies action target) hfound
      have hconcerns := Rule.concerns_of_applies hnewest
      cases heffect : newest.effect with
      | grant => simp [heffect]
      | deny => simp [hconcerns, heffect] at hpassed

/-- A permission that is held without conditions permits its actions on the type as a whole and on
every resource of the organization. -/
theorem permits_of_grantsUnconditionally {p : Permission}
    (h : s.grantsUnconditionally p = true) (haction : action ∈ p.coveredActions)
    (htype : target.resourceType = p.resourceType)
    (hwithin : target.within s.organization = true) : s.permits action target = true := by
  have hsettled := List.all_eq_true.mp h action haction
  rw [← htype] at hsettled
  cases hrule : s.settling? action target.resourceType with
  | none => simp [hrule] at hsettled
  | some rule =>
      have hgrant : rule.effect = .grant := by simpa [hrule] using hsettled
      exact permits_iff.mpr ⟨hwithin, verdict?_of_settling? hrule hgrant⟩

end RuleSet

end AccessControl

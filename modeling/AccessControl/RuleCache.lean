import AccessControl.Rule
import AccessControl.Table

/-! # The capability cache

A cache remembers rule sets of users. They are forgotten one by one or by organization; the end of
their lifetime is not modelled. -/

namespace AccessControl

structure CachedRules where
  organization : OrganizationId
  user : UserId
  rules : RuleSet
deriving DecidableEq, Repr

def CachedRules.key (c : CachedRules) : OrganizationId × UserId := (c.organization, c.user)

structure RuleCache where
  kept : Table CachedRules.key := {}

namespace RuleCache

def get (c : RuleCache) (organization : OrganizationId) (user : UserId) : Option RuleSet :=
  (c.kept.find? (organization, user)).map (·.rules)

/-- Without a lifetime nothing is remembered. -/
def set (c : RuleCache) (organization : OrganizationId) (user : UserId) (rules : RuleSet)
    (ttl : Nat) : RuleCache :=
  if ttl = 0 then c else ⟨c.kept.put ⟨organization, user, rules⟩⟩

def forgetUser (c : RuleCache) (organization : OrganizationId) (user : UserId) : RuleCache :=
  ⟨c.kept.erase (organization, user)⟩

def forgetOrganization (c : RuleCache) (organization : OrganizationId) : RuleCache :=
  ⟨c.kept.filter fun r => r.organization ≠ organization⟩

theorem get_set_self {ttl : Nat} (h : 0 < ttl) (c : RuleCache) (organization : OrganizationId)
    (user : UserId) (rules : RuleSet) :
    (c.set organization user rules ttl).get organization user = some rules := by
  rw [set, if_neg (Nat.ne_of_gt h), get]
  exact congrArg (Option.map CachedRules.rules)
    (Table.find?_put_self c.kept ⟨organization, user, rules⟩)

end RuleCache

end AccessControl

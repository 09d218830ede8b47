import AccessControl.Proofs.Discipline
import AccessControl.Proofs.Sources

/-!
# Gathering what a user's rules are made of

A service looks up the membership first and asks for everything else behind it.  Wherever the
questions behind it are answered from one store, what comes together are the sources of that store
for the member who was found (`Authorization.finds_gather`); when and where the membership was
looked up does not matter.
-/

namespace AccessControl

open Service Program

/-! ## Questions that a store answers -/

namespace Discipline

variable {ξ : Type}

/-- The call may be made.  If it does not fail it is answered by this, and changes nothing. -/
def Tells (D : Discipline Call Call.Reply ξ) (x : ξ) (c : Call) (a : c.Reply) : Prop :=
  D.allows x c ∧ ∀ r y, D.leads x c r y → y = x ∧ ∀ a', r = .ok a' → a' = a

/-- All but the membership is told from the store. -/
structure Informs (D : Discipline Call Call.Reply ξ) (x : ξ) (organization : OrganizationId)
    (user : UserId) (t : Store) : Prop where
  role : ∀ id, D.Tells x (.findRole organization id) (t.findRole organization id)
  teams : D.Tells x (.listTeams organization user) (t.teams organization user)
  delegations : D.Tells x (.listReceivedDelegations organization user)
    (t.receivedDelegations organization user)
  overrides : D.Tells x (.listReceivedOverrides organization user)
    (t.receivedOverrides organization user)

end Discipline

section Gathering

variable {ξ : Type} {D : Discipline Call Call.Reply ξ} {x : ξ} {organization : OrganizationId}
  {user : UserId} {t : Store}

theorem finds_ask {c : Call} {a : c.Reply} (h : D.Tells x c a) :
    Finds D x (ask c) fun a' => a' = a :=
  Meets.perform h.1 h.2

/-- The sources of the store for the member who was found. -/
def Store.gathered (t : Store) (organization : OrganizationId) (user : UserId) :
    Option Member → GrantSources
  | none => {}
  | some m =>
    { membership := some m
      role := m.role.roleId?.bind (t.findRole organization)
      teams := t.teams organization user
      delegations := (t.receivedDelegations organization user).map (t.access organization)
      overrides := t.receivedOverrides organization user }

theorem Store.sources_eq_gathered : t.sources organization user =
    t.gathered organization user (t.findMember organization user) := by
  rw [sources]
  cases t.findMember organization user <;> rfl

namespace Authorization

/-- What is asked behind the question for the membership. -/
def gather (organization : OrganizationId) (user : UserId) :
    Option Member → Service GrantSources
  | none => pure {}
  | some membership => do
    let role ← findRole? organization membership.role.roleId?
    let delegations ← withRoles organization (← ask (.listReceivedDelegations organization user))
    let teams ← ask (.listTeams organization user)
    let overrides ← ask (.listReceivedOverrides organization user)
    return { membership := some membership, role, teams, delegations, overrides }

theorem sources_eq_gather : sources organization user =
    ask (.findMember organization user) >>= gather organization user := by
  rw [sources]
  congr 1
  funext m
  cases m <;> rfl

theorem finds_findRole? (h : D.Informs x organization user t) (id : Option RoleId) :
    Finds D x (findRole? organization id) fun r => r = id.bind (t.findRole organization) := by
  cases id with
  | none => exact Finds.pure rfl
  | some id => exact finds_ask (h.role id)

theorem finds_withRoles (h : D.Informs x organization user t) (ds : List Delegation) :
    Finds D x (withRoles organization ds) fun accesses =>
      accesses = ds.map (t.access organization) := by
  induction ds with
  | nil => exact Finds.pure rfl
  | cons d ds ih =>
      refine (finds_findRole? h d.role).bind fun role hrole => ?_
      refine ih.bind fun others hothers => ?_
      exact Finds.pure (by rw [hrole, hothers]; rfl)

theorem finds_gather (h : D.Informs x organization user t) (m : Option Member) :
    Finds D x (gather organization user m) fun g => g = t.gathered organization user m := by
  cases m with
  | none => exact Finds.pure rfl
  | some m =>
      refine (finds_findRole? h m.role.roleId?).bind fun role hrole => ?_
      refine (finds_ask h.delegations).bind fun ds hds => ?_
      refine (finds_withRoles h ds).bind fun accesses haccesses => ?_
      refine (finds_ask h.teams).bind fun teams hteams => ?_
      refine (finds_ask h.overrides).bind fun overrides hoverrides => ?_
      exact Finds.pure (by rw [Store.gathered, hrole, haccesses, hds, hteams, hoverrides])

end Authorization

end Gathering

end AccessControl

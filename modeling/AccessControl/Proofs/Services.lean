import AccessControl.Bootstrap
import AccessControl.Proofs.Administration.Conduct

/-!
# All that the services do

The operations of authorization and of administration, and the making of an organization's first
roles, are put together as `Task`s.  A task is carried out for one organization and keeps to the
discipline of `Proofs.Conduct` (`Task.behaves`).
-/

namespace AccessControl

open Service

/-! ## Authorization -/

namespace Authorization

/-- What is asked of authorization in an organization. -/
inductive Operation where
  | ruleSet (user : Option UserId)
  | authorize (user : Option UserId) (action : Action) (target : Target)
  | explain (user : Option UserId) (action : Action) (target : Target)
  | decide (user : Option UserId) (context : RequestContext) (action : Action) (target : Target)
  | require (user : UserId) (context : RequestContext) (action : Action) (target : Target)
  | capabilities (user : Option UserId)
  | effectivePriority (user : UserId)
  | forgetUser (user : UserId)
  | forgetOrganization

namespace Operation

abbrev Result : Operation → Type
  | ruleSet _ => RuleSet
  | authorize .. => Bool
  | explain .. | decide .. => Explanation
  | require .. => Unit
  | capabilities _ => List Permission
  | effectivePriority _ => Option RolePriority
  | forgetUser _ | forgetOrganization => Unit

/-- The program of an operation. -/
def perform (s : Setting) (organization : OrganizationId) : (op : Operation) → Service op.Result
  | ruleSet user => Authorization.ruleSet s organization user
  | authorize user action target => Authorization.authorize s organization user action target
  | explain user action target => Authorization.explain s organization user action target
  | decide user context action target =>
    Authorization.decide s organization user context action target
  | require user context action target =>
    Authorization.require s ⟨user, organization, context⟩ action target
  | capabilities user => Authorization.capabilities s organization user
  | effectivePriority user => Authorization.effectivePriority organization user
  | forgetUser user => Authorization.forgetUser s organization user
  | forgetOrganization => Authorization.forgetOrganization s organization

variable {s : Setting} {x : Situation} {n : Nat} {organization : OrganizationId}

theorem behaves_perform (op : Operation) :
    Behaves organization s x ∅ n (op.perform s organization) := by
  cases op with
  | ruleSet user => exact Behaves.of_looks (looks_ruleSet user)
  | authorize user action target => exact Behaves.of_looks (looks_authorize user action target)
  | explain user action target => exact Behaves.of_looks (looks_explain user action target)
  | decide user context action target =>
      exact Behaves.of_looks (looks_decide user context action target)
  | require user context action target =>
      exact Behaves.of_looks (looks_require ⟨user, organization, context⟩ action target)
  | capabilities user => exact Behaves.of_looks (looks_capabilities user)
  | effectivePriority user => exact Behaves.of_looks looks_effectivePriority
  | forgetUser user =>
      have h : Behaves organization s x (if s.cacheTtl.isSome then ∅ else ∅) n
          (Authorization.forgetUser s organization user) :=
        behaves_forgetUser (Set.empty_subset {user})
      rwa [ite_self] at h
  | forgetOrganization =>
      have h : Behaves organization s x (if s.cacheTtl.isSome then ∅ else ∅) n
          (Authorization.forgetOrganization s organization) := behaves_forgetOrganization
      rwa [ite_self] at h

end Operation

end Authorization

/-! ## The first roles -/

namespace Bootstrap

variable {s : Setting} {x : Situation} {n : Nat} {organization : OrganizationId}

theorem meets_ensureRole (r : LegacyRole) (hn : 1 ≤ n) :
    Program.Meets (conduct organization s) ⟨x, ∅, n⟩ (ensureRole organization r) fun _ z =>
      z.stale = ∅ ∧ n ≤ z.spare + 1 := by
  have hfind : Looks organization s x (ask (.findRoleByKey organization r.key)) fun _ => True :=
    looks_call rfl
  refine Program.Meets.bind hfind.conduct ?_ ?_
  · rintro found z ⟨rfl, -⟩
    cases found with
    | some role => exact ⟨rfl, Nat.le_succ n⟩
    | none =>
        refine Program.Meets.bind looks_newId.conduct ?_ ?_
        · rintro id z ⟨rfl, hid⟩
          refine Program.Meets.bind (meets_createRole rfl (hid id rfl (by decide)) hn) ?_ ?_
          · rintro _ z ⟨hstale, hspare⟩
            exact ⟨hstale, by omega⟩
          · rintro _ z ⟨hstale, hspare⟩
            exact ⟨hstale, by omega⟩
        · rintro e z ⟨rfl, -⟩
          exact ⟨rfl, Nat.le_succ n⟩
  · rintro e z ⟨rfl, -⟩
    exact ⟨rfl, Nat.le_succ n⟩

theorem behaves_ensureRoles (rs : List LegacyRole) (hn : rs.length ≤ n) :
    Behaves organization s x ∅ n (ensureRoles organization rs) := by
  induction rs generalizing x n with
  | nil => exact Behaves.pure
  | cons r rs ih =>
      rw [List.length_cons] at hn
      refine Program.Meets.bind (meets_ensureRole r (by omega)) ?_ fun _ _ hz => hz.1
      rintro created ⟨y, stale, m⟩ ⟨rfl, hm⟩
      dsimp only at hm
      exact (ih (by omega)).bind fun _ _ _ => Behaves.pure

end Bootstrap

/-! ## Tasks -/

/-- An operation of one of the services. -/
inductive Task where
  | authorization (organization : OrganizationId) (op : Authorization.Operation)
  | administration (actor : Actor) (op : Administration.Operation)
  | bootstrap (organization : OrganizationId)

namespace Task

/-- The organization for which the task is carried out. -/
def organization : Task → OrganizationId
  | authorization organization _ => organization
  | administration actor _ => actor.organization
  | bootstrap organization => organization

abbrev Result : Task → Type
  | authorization _ op => op.Result
  | administration _ op => op.Result
  | bootstrap _ => List Role

/-- The program of a task. -/
def perform (s : Setting) : (task : Task) → Service task.Result
  | authorization organization op => op.perform s organization
  | administration actor op => op.perform s actor
  | bootstrap organization => Bootstrap.ensureDefaultRoles organization

/-- How many records the task may create. -/
def creations : Task → Nat
  | authorization .. => 0
  | administration .. => 1
  | bootstrap _ => LegacyRole.all.length

/-- Every task keeps to the discipline of its organization, and leaves nothing out of date. -/
theorem behaves {s : Setting} {x : Situation} (task : Task) :
    Behaves task.organization s x ∅ task.creations (task.perform s) := by
  cases task with
  | authorization organization op => exact op.behaves_perform
  | administration actor op => exact op.behaves_perform
  | bootstrap organization => exact Bootstrap.behaves_ensureRoles LegacyRole.all (Nat.le_refl _)

end Task

end AccessControl

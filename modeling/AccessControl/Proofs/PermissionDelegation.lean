import AccessControl.Proofs.Administration.Delegations

/-!
# Delegated permissions do not amplify authority

A permission can be handed over by one who holds it without conditions.  That is decided by a
reading of the rules of its own, which counts no conditional grant and every denial, while checks
go by the last rule that applies.  The new rules stand somewhere among those of the delegatee, and
the checks that they decide are about the permissions handed over.  So whatever the delegatee may
do after the delegation and could not do before, the delegator may do as well.
-/

namespace AccessControl

open Administration

namespace Store

variable {s : Store}

/-- With one more delegation that has an identifier of its own, the sources of a user are as
before, or the delegation has come last. -/
theorem sources_putDelegation {d : Delegation} (hfree : s.delegations.find? d.id = none)
    (organization : OrganizationId) (user : UserId) :
    (s.putDelegation d).sources organization user = s.sources organization user ∨
      (s.putDelegation d).sources organization user =
        { s.sources organization user with
          delegations :=
            (s.sources organization user).delegations ++ [s.access organization d] } := by
  have hreceived : (s.putDelegation d).receivedDelegations organization user =
      s.receivedDelegations organization user ++
        [d].filter fun d => d.organization = organization && d.delegatee = user && d.active := by
    have hnew := Table.find?_eq_none.mp hfree
    rw [receivedDelegations, putDelegation, Table.rows_put_of_not_mem hnew, List.filter_append]
    rfl
  have hsame : (s.putDelegation d).findMember organization user =
      s.findMember organization user := rfl
  cases hmember : s.findMember organization user with
  | none => exact .inl (by rw [sources, sources, hsame, hmember])
  | some m =>
      have hbefore : (s.sources organization user).delegations =
          (s.receivedDelegations organization user).map (s.access organization) := by
        rw [sources, hmember]
      have hafter : (s.putDelegation d).sources organization user =
          { s.sources organization user with
            delegations := ((s.putDelegation d).receivedDelegations organization user).map
              (s.access organization) } := by
        rw [sources, sources, hsame, hmember]
        rfl
      rw [hafter, hreceived, hbefore]
      cases hd : d.organization = organization && d.delegatee = user && d.active with
      | false =>
          refine .inl ?_
          rw [List.filter_cons, List.filter_nil, hd, if_neg Bool.false_ne_true, List.append_nil,
            ← hbefore]
      | true =>
          refine .inr ?_
          rw [List.filter_cons, List.filter_nil, hd, if_pos rfl, List.map_append,
            List.map_singleton]

end Store

/-! ## What a delegatee gains -/

section Gain

variable {b c : Backend} {s : Setting} {actor : Actor} {request : DelegationRequest}
variable {d : Delegation} {action : Action} {target : Target}

/-- Where a new delegation of permissions makes a difference, one of them covers the check. -/
theorem exists_permission_of_gain {store : Store} {user : UserId}
    (h : DelegationCreated b s actor request d store) (hrole : request.role = none)
    (hbefore : (b.store.rules actor.organization user s.now).permits action target = false)
    (hafter : (store.rules actor.organization user s.now).permits action target = true) :
    ∃ p ∈ request.permissions, p.action.covers action = true ∧
      p.resourceType = target.resourceType := by
  rw [Store.rules] at hbefore
  rw [Store.rules, h.store] at hafter
  rcases Store.sources_putDelegation h.free actor.organization user with hsame | hlast
  · rw [hsame, hbefore] at hafter
    cases hafter
  · by_contra hnone
    -- Then the rules of the delegation decide nothing about the check.
    have hsilent : ∀ bearer : Bearer,
        verdict? (bearer.delegationRules (b.store.access actor.organization d)) action target =
          none := by
      intro bearer
      refine Option.eq_none_iff_forall_ne_some.mpr ?_
      intro effect hdecides
      exact hnone (h.exists_permission_of_verdict? hrole hdecides)
    rw [hlast, resolve_permits_insert hsilent, List.append_nil, hbefore] at hafter
    cases hafter

/-- Whatever the delegatee gains by a delegation of permissions, the delegator may do. -/
theorem delegator_permits_of_gain
    (hrun : b.run (createDelegation s actor request) = (.ok d, c)) (hrole : request.role = none)
    (huncached : s.cacheTtl = none)
    (hcataloged : (⟨target.resourceType, action⟩ : Permission).isCataloged = true)
    (hbefore : (b.rules s actor.organization request.delegatee).permits action target = false)
    (hafter : (c.rules s actor.organization request.delegatee).permits action target = true) :
    (b.rules s actor.organization actor.user).permits action target = true := by
  have hcreated : DelegationCreated b s actor request d c.store := by
    have hends := (ends_createDelegation request : Service.Ends s b
      (createDelegation s actor request) _) b .refl
    rw [hrun] at hends
    exact hends
  rw [Backend.rules_of_no_cache huncached] at hbefore hafter ⊢
  obtain ⟨p, hp, hcovers, htype⟩ := exists_permission_of_gain hcreated hrole hbefore hafter
  have hheld := (hcreated.of_permissions hrole).2.2 p hp
  rw [Backend.rules_of_no_cache huncached] at hheld
  have haction : action ∈ p.coveredActions := by
    refine Permission.mem_coveredActions hcovers ?_
    rw [htype]
    exact hcataloged
  refine RuleSet.permits_of_grantsUnconditionally hheld haction htype.symm ?_
  have hreach := (RuleSet.permits_iff.mp hafter).1
  rw [Store.organization_rules] at hreach ⊢
  exact hreach

end Gain

namespace Sample

def setting : Setting := { now := ⟨0⟩ }

/-- A viewer may change tasks for a while. -/
def taskShare : DelegationRequest where
  delegatee := viewer
  role := none
  permissions := [⟨.task, .update⟩]
  startsAt := ⟨0⟩
  endsAt := ⟨1⟩
  reason := none

/-- The administrator hands that over. -/
def sharing : Outcome Delegation × Backend :=
  backend.run (createDelegation setting (actor admin) taskShare)

end Sample

open Sample

/-- The viewer gains what the administrator may do. -/
theorem viewer_gains_update_of_tasks :
    (backend.rules setting organization viewer).permits .update (.ofType .task) = false ∧
      (sharing.2.rules setting organization viewer).permits .update (.ofType .task) = true ∧
      (backend.rules setting organization admin).permits .update (.ofType .task) = true := by
  have hbefore : (backend.rules setting organization viewer).permits .update (.ofType .task) =
      false := by decide +kernel
  have hafter : (sharing.2.rules setting organization viewer).permits .update (.ofType .task) =
      true := by decide +kernel
  have hsucceeds : sharing.1.toOption.isSome = true := by decide +kernel
  obtain ⟨d, hd⟩ := Option.isSome_iff_exists.mp hsucceeds
  have hrun : backend.run (createDelegation setting (actor admin) taskShare) =
      (.ok d, sharing.2) := by
    cases hresult : sharing.1 with
    | error fault =>
        rw [hresult] at hd
        cases hd
    | ok d' =>
        rw [hresult] at hd
        obtain rfl : d' = d := Option.some.inj hd
        exact Prod.ext hresult rfl
  have hcataloged : (⟨.task, .update⟩ : Permission).isCataloged = true := by decide
  exact ⟨hbefore, hafter, delegator_permits_of_gain hrun rfl rfl hcataloged hbefore hafter⟩

end AccessControl

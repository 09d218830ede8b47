import AccessControl.Administration.Operation
import AccessControl.Proofs.Administration.Operation
import AccessControl.Proofs.Conduct

/-!
# How the operations of administration conduct themselves

Every operation keeps to the discipline of `Proofs.Conduct` for the organization of its actor,
whether it succeeds or not.  Most of an operation only looks around; behind its one change the
rules that may have become different are forgotten, before the operation is entered into the log.
-/

namespace AccessControl.Administration

open Service

variable {s : Setting} {x : Situation} {n : Nat} {actor : Actor}

/-! ## Looking around -/

theorem looks_report {r : AuditRecord} (hr : r.organization = actor.organization) :
    Looks actor.organization s x (report s r) fun _ => True :=
  (Audit.looks_record hr).bind fun _ _ => Looks.pure trivial

theorem looks_ownPriority : Looks actor.organization s x (ownPriority actor) fun _ => True :=
  Authorization.looks_effectivePriority.bind fun _ _ => (Looks.found _ _).mono fun _ _ => trivial

theorem looks_requirePriority (priority : RolePriority) :
    Looks actor.organization s x (requirePriority actor priority) fun _ => True :=
  looks_ownPriority.bind fun _ _ => (Looks.ofOutcome _).mono fun _ _ => trivial

theorem looks_findRole (id : RoleId) :
    Looks actor.organization s x (findRole actor id) fun role =>
      x.store.findRole actor.organization id = some role := by
  refine (looks_ask_store (.findRole actor.organization id) (·.findRole actor.organization id) rfl
    fun _ => rfl).bind fun role hrole => ?_
  exact (Looks.found _ _).mono fun _ hfound => by rw [← hrole, hfound]

theorem looks_memberRoleKey (role : MemberRole) :
    Looks actor.organization s x (memberRoleKey actor role) fun _ => True := by
  cases role with
  | legacy r => exact Looks.pure trivial
  | dynamic id =>
      exact (looks_call (c := .findRole actor.organization id) rfl).bind fun _ _ =>
        Looks.pure trivial

theorem looks_memberResource (m : Member) (user : UserId) :
    Looks actor.organization s x (memberResource actor m user) fun _ => True :=
  (looks_memberRoleKey m.role).bind fun _ _ => Looks.pure trivial

theorem looks_requireOnRoles (action : Action) :
    Looks actor.organization s x (requireOnRoles s actor action) fun _ => True :=
  Authorization.looks_require actor action _

theorem looks_requireOnLog (action : Action) :
    Looks actor.organization s x (requireOnLog s actor action) fun _ => True :=
  Authorization.looks_require actor action _

theorem looks_requireFreeKey (key : RoleKey) :
    Looks actor.organization s x (requireFreeKey actor key) fun _ => True := by
  refine (looks_call (c := .findRoleByKey actor.organization key) rfl).bind fun role _ => ?_
  cases role with
  | none => exact Looks.pure trivial
  | some role => exact Looks.fail

theorem looks_editableRole (id : RoleId) :
    Looks actor.organization s x (editableRole s actor id) fun role =>
      x.store.findRole actor.organization id = some role := by
  refine (looks_requireOnRoles .update).bind fun _ _ => ?_
  refine (looks_findRole id).bind fun role hrole => ?_
  refine (Looks.ofOutcome _).bind fun _ _ => ?_
  exact (looks_requirePriority role.priority).bind fun _ _ => Looks.pure hrole

theorem looks_changedPriority (stored : Role) (change : Option Int) :
    Looks actor.organization s x (changedPriority actor stored change) fun _ => True := by
  cases change with
  | none => exact Looks.pure trivial
  | some value =>
      refine (Looks.ofOutcome _).bind fun priority _ => ?_
      exact (looks_requirePriority priority).bind fun _ _ => Looks.pure trivial

theorem looks_requireUnused (role : Role) (id : RoleId) :
    Looks actor.organization s x (requireUnused actor role id) fun _ => True := by
  refine (looks_call (c := .countMembers actor.organization id) rfl).bind fun _ _ => ?_
  refine (Looks.ofOutcome _).bind fun _ _ => ?_
  refine (looks_call (c := .countDelegations actor.organization id) rfl).bind fun _ _ => ?_
  exact (Looks.ofOutcome _).mono fun _ _ => trivial

theorem looks_requireActiveMember (user : UserId) :
    Looks actor.organization s x (requireActiveMember actor user) fun _ => True := by
  refine (looks_call (c := .findMember actor.organization user) rfl).bind fun m _ => ?_
  split
  · exact Looks.pure trivial
  · exact Looks.fail

/-- A role that is handed over is one of the organization. -/
theorem looks_shareOf (request : DelegationRequest) :
    Looks actor.organization s x (shareOf s actor request) fun share =>
      ∀ id priority, share = .role id priority →
        (x.store.findRole actor.organization id).isSome = true := by
  rw [shareOf]
  cases request.role with
  | some id =>
      simp only []
      split
      · refine (looks_findRole id).bind fun role hrole => Looks.pure ?_
        rintro id' priority ⟨⟩
        rw [hrole]
        rfl
      · exact Looks.fail
  | none =>
      refine (Authorization.looks_ruleSet _).bind fun rules _ => ?_
      refine (Looks.ofOutcome _).bind fun _ _ => Looks.pure ?_
      rintro id priority ⟨⟩

theorem looks_managedDelegation (id : DelegationId) :
    Looks actor.organization s x (managedDelegation s actor id) fun d =>
      x.store.findDelegation actor.organization id = some d := by
  refine (looks_ask_store (.findDelegation actor.organization id)
    (·.findDelegation actor.organization id) rfl fun _ => rfl).bind fun found hfound => ?_
  refine (Looks.found _ _).bind fun d hd => ?_
  have hstored : x.store.findDelegation actor.organization id = some d := by rw [← hfound, hd]
  split
  · exact Looks.pure hstored
  · exact (Authorization.looks_require actor _ _).bind fun _ _ => Looks.pure hstored

theorem looks_membershipResource? (user : UserId) :
    Looks actor.organization s x (membershipResource? actor user) fun _ => True := by
  refine (looks_call (c := .findMember actor.organization user) rfl).bind fun m _ => ?_
  cases m with
  | none => exact Looks.pure trivial
  | some m => exact (looks_memberResource m user).bind fun _ _ => Looks.pure trivial

theorem looks_overrideTarget (t : ResourceType) (resourceId : String) :
    Looks actor.organization s x (overrideTarget actor t resourceId) fun _ => True := by
  rw [overrideTarget]
  split
  · generalize (Id.parse resourceId : Outcome UserId) = parsed
    refine (Looks.ofOutcome parsed).bind fun user _ => ?_
    refine (looks_membershipResource? user).bind fun found _ => ?_
    exact (Looks.found _ _).bind fun _ _ => Looks.pure trivial
  · exact Looks.pure trivial

theorem looks_requireAll (target : Target) (actions : List Action) :
    Looks actor.organization s x (requireAll s actor target actions) fun _ => True := by
  induction actions with
  | nil => exact Looks.pure trivial
  | cons action rest ih =>
      exact (Authorization.looks_require actor action target).bind fun _ _ => ih

theorem looks_managedTarget (o : Override) :
    Looks actor.organization s x (managedTarget actor o) fun _ => True := by
  rw [managedTarget]
  split
  · exact Looks.pure trivial
  · split
    · exact Looks.pure trivial
    · exact (looks_membershipResource? _).bind fun _ _ => Looks.pure trivial
  · exact Looks.pure trivial

theorem looks_managedOverride (id : OverrideId) :
    Looks actor.organization s x (managedOverride s actor id) fun o =>
      x.store.findOverride actor.organization id = some o := by
  refine (looks_ask_store (.findOverride actor.organization id)
    (·.findOverride actor.organization id) rfl fun _ => rfl).bind fun found hfound => ?_
  refine (Looks.found _ _).bind fun o ho => ?_
  refine (looks_managedTarget o).bind fun target _ => ?_
  refine (Authorization.looks_require actor _ _).bind fun _ _ => Looks.pure ?_
  rw [← hfound, ho]

/-! ## Operations that only look around -/

theorem looks_listRoles : Looks actor.organization s x (listRoles s actor) fun _ => True :=
  (looks_requireOnRoles .read).bind fun _ _ => looks_call rfl

theorem looks_listDelegations (f : ListFilter) :
    Looks actor.organization s x (listDelegations s actor f) fun _ => True := by
  refine (Authorization.looks_require actor _ _).bind fun _ _ => ?_
  exact (looks_call (c := .listDelegations actor.organization f.user) rfl).bind fun _ _ =>
    Looks.pure trivial

theorem looks_listOverrides (f : ListFilter) :
    Looks actor.organization s x (listOverrides s actor f) fun _ => True := by
  refine (Authorization.looks_require actor _ _).bind fun _ _ => ?_
  exact (looks_call (c := .listOverrides actor.organization f.user) rfl).bind fun _ _ =>
    Looks.pure trivial

theorem looks_listEntries (q : AuditQuery) :
    Looks actor.organization s x (listEntries s actor q) fun _ => True :=
  (looks_requireOnLog .read).bind fun _ _ => looks_call rfl

theorem looks_auditSummary (window : AuditWindow) :
    Looks actor.organization s x (auditSummary s actor window) fun _ => True := by
  refine (looks_requireOnLog .read).bind fun _ _ => ?_
  exact (Looks.ofOutcome _).bind fun _ _ => looks_call rfl

theorem looks_exportEntries (window : AuditWindow) :
    Looks actor.organization s x (exportEntries s actor window) fun _ => True :=
  (looks_requireOnLog .exportData).bind fun _ _ => looks_call rfl

theorem looks_purgeEntries (days : Nat) :
    Looks actor.organization s x (purgeEntries s actor days) fun _ => True := by
  refine (looks_requireOnLog .destroy).bind fun _ _ => ?_
  have hpurge : Looks actor.organization s x (Audit.purge actor.organization days) fun _ => True :=
    (Looks.ofOutcome _).bind fun _ _ => looks_call rfl
  refine hpurge.bind fun purged _ => ?_
  refine Looks.bind (looks_report ?_) fun _ _ => Looks.pure trivial
  rfl

/-! ## Operations that change something -/

theorem behaves_report {r : AuditRecord} (hr : r.organization = actor.organization) :
    Behaves actor.organization s x ∅ n (report s r) :=
  Behaves.of_looks (looks_report hr)

theorem behaves_storeRole (key : RoleKey) (name : String) (priority : RolePriority)
    (grants : List RoleGrant) :
    Behaves actor.organization s x ∅ (n + 1) (storeRole actor key name priority grants) := by
  refine looks_newId.before fun id hid => ?_
  exact Program.Meets.bind (meets_createRole rfl (hid (by decide)) (Nat.le_add_left _ _))
    (fun _ _ hz => hz.1) fun _ _ hz => hz.1

theorem behaves_createRole (draft : RoleDraft) :
    Behaves actor.organization s x ∅ (n + 1) (createRole s actor draft) := by
  refine (looks_requireOnRoles .create).before fun _ _ => ?_
  refine (Looks.ofOutcome _).before fun key _ => ?_
  refine (Looks.ofOutcome _).before fun name _ => ?_
  refine (Looks.ofOutcome _).before fun priority _ => ?_
  refine (looks_requirePriority priority).before fun _ _ => ?_
  refine (Looks.ofOutcome _).before fun grants _ => ?_
  refine (looks_requireFreeKey key).before fun _ _ => ?_
  refine (behaves_storeRole key name priority grants).bind fun role y m => ?_
  exact (behaves_report rfl).bind fun _ _ _ => Behaves.pure

theorem behaves_duplicateRole (id : RoleId) (copy : RoleCopy) :
    Behaves actor.organization s x ∅ (n + 1) (duplicateRole s actor id copy) := by
  refine (looks_requireOnRoles .create).before fun _ _ => ?_
  refine (looks_findRole id).before fun source _ => ?_
  refine (looks_requirePriority source.priority).before fun _ _ => ?_
  refine (Looks.ofOutcome _).before fun key _ => ?_
  refine (Looks.ofOutcome _).before fun name _ => ?_
  refine (looks_requireFreeKey key).before fun _ _ => ?_
  refine (behaves_storeRole key name source.priority source.grants).bind fun role y m => ?_
  exact (behaves_report rfl).bind fun _ _ _ => Behaves.pure

theorem behaves_updateRole (id : RoleId) (change : RoleChange) :
    Behaves actor.organization s x ∅ n (updateRole s actor id change) := by
  refine (looks_editableRole id).before fun stored hstored => ?_
  refine (Looks.ofOutcome _).before fun name _ => ?_
  refine (looks_changedPriority stored change.priority).before fun priority _ => ?_
  refine Behaves.change (Store.findRole_eq_some.mp hstored).2.2 (Nat.zero_le _) fun _ y m => ?_
  refine Authorization.behaves_forgetOrganization.bind fun _ y m => ?_
  exact (behaves_report rfl).bind fun _ _ _ => Behaves.pure

theorem behaves_deleteRole (id : RoleId) :
    Behaves actor.organization s x ∅ n (deleteRole s actor id) := by
  refine (looks_requireOnRoles .destroy).before fun _ _ => ?_
  refine (looks_findRole id).before fun role _ => ?_
  refine (Looks.ofOutcome _).before fun _ _ => ?_
  refine (looks_requirePriority role.priority).before fun _ _ => ?_
  refine (looks_requireUnused role id).before fun _ _ => ?_
  refine Behaves.change rfl (Nat.zero_le _) fun _ y m => ?_
  exact Authorization.behaves_forgetOrganization.bind fun _ y m => behaves_report rfl

theorem behaves_assignRole (user : UserId) (id : RoleId) :
    Behaves actor.organization s x ∅ n (assignRole s actor user id) := by
  refine (looks_call (c := .findMember actor.organization user) rfl).before fun _ _ => ?_
  refine (Looks.found _ _).before fun m _ => ?_
  refine (looks_memberResource m user).before fun resource _ => ?_
  refine (Authorization.looks_require actor .changeRole _).before fun _ _ => ?_
  refine (looks_findRole id).before fun role hrole => ?_
  refine (looks_requirePriority role.priority).before fun _ _ => ?_
  refine Behaves.change ⟨rfl, ?_⟩ (Nat.zero_le _) fun _ y m => ?_
  · rintro id' ⟨⟩
    rw [hrole]
    rfl
  · refine (Authorization.behaves_forgetUser (Set.Subset.refl _)).bind fun _ y m => ?_
    exact (behaves_report rfl).bind fun _ _ _ => Behaves.pure

theorem behaves_addPermission (id : RoleId) (draft : GrantDraft) :
    Behaves actor.organization s x ∅ n (addPermission s actor id draft) := by
  refine (looks_editableRole id).before fun role _ => ?_
  refine (Looks.ofOutcome _).before fun grant _ => ?_
  refine (Looks.ofOutcome _).before fun _ _ => ?_
  refine Behaves.change rfl (Nat.zero_le _) fun _ y m => ?_
  refine Authorization.behaves_forgetOrganization.bind fun _ y m => ?_
  exact (behaves_report rfl).bind fun _ y m => Behaves.of_looks (looks_findRole id)

theorem behaves_removePermission (id : RoleId) (permission : Permission) :
    Behaves actor.organization s x ∅ n (removePermission s actor id permission) := by
  refine (looks_editableRole id).before fun role _ => ?_
  refine (Looks.ofOutcome _).before fun _ _ => ?_
  refine Behaves.change rfl (Nat.zero_le _) fun _ y m => ?_
  refine Authorization.behaves_forgetOrganization.bind fun _ y m => ?_
  exact (behaves_report rfl).bind fun _ y m => Behaves.of_looks (looks_findRole id)

theorem behaves_createDelegation (request : DelegationRequest) :
    Behaves actor.organization s x ∅ (n + 1) (createDelegation s actor request) := by
  refine looks_ownPriority.before fun own _ => ?_
  refine (looks_shareOf request).before fun share hshare => ?_
  refine (looks_requireActiveMember request.delegatee).before fun _ _ => ?_
  refine looks_newId.before fun id hid => ?_
  refine (Looks.ofOutcome _).before fun d hd => ?_
  refine Behaves.change ?_ (Nat.le_add_left _ _) fun _ y m => ?_
  · rw [Delegation.eq_of_create hd]
    refine ⟨rfl, hid (by decide), ?_⟩
    intro role hrole
    obtain ⟨priority, rfl⟩ := Delegation.exists_share_of_create hd hrole
    exact hshare role priority rfl
  · refine (Authorization.behaves_forgetUser (Set.Subset.refl _)).bind fun _ y m => ?_
    exact (behaves_report rfl).bind fun _ _ _ => Behaves.pure

/-- A delegation that was found is stored again, with another span or revoked. -/
theorem behaves_storeDelegation {id : DelegationId} {stored d : Delegation} {active : Bool}
    {revokedAt : Option Instant} {endsAt : Instant}
    (hstored : x.store.findDelegation actor.organization id = some stored)
    (hd : d = { stored with active, revokedAt, endsAt }) :
    Behaves actor.organization s x ∅ n (storeDelegation s actor d) := by
  obtain ⟨-, rfl, -⟩ := Store.findDelegation_eq_some.mp hstored
  subst hd
  exact Behaves.change ⟨stored, hstored, rfl, rfl, rfl⟩ (Nat.zero_le _) fun _ y m =>
    Authorization.behaves_forgetUser (Set.Subset.refl _)

theorem behaves_revokeDelegation (id : DelegationId) :
    Behaves actor.organization s x ∅ n (revokeDelegation s actor id) := by
  refine (looks_managedDelegation id).before fun stored hstored => ?_
  refine (Looks.ofOutcome _).before fun d hd => ?_
  refine (behaves_storeDelegation hstored (Delegation.eq_of_revoke hd)).bind fun _ y m => ?_
  exact (behaves_report rfl).bind fun _ _ _ => Behaves.pure

theorem behaves_extendDelegation (id : DelegationId) (endsAt : Instant) :
    Behaves actor.organization s x ∅ n (extendDelegation s actor id endsAt) := by
  refine (looks_managedDelegation id).before fun stored hstored => ?_
  refine (Looks.ofOutcome _).before fun d hd => ?_
  refine (behaves_storeDelegation hstored (Delegation.eq_of_extend hd)).bind fun _ y m => ?_
  exact (behaves_report rfl).bind fun _ _ _ => Behaves.pure

theorem behaves_grantOverride (request : OverrideRequest) :
    Behaves actor.organization s x ∅ (n + 1) (grantOverride s actor request) := by
  refine (Looks.ofOutcome _).before fun _ _ => ?_
  refine (looks_overrideTarget _ _).before fun target _ => ?_
  refine (looks_requireAll target _).before fun _ _ => ?_
  refine (looks_requireActiveMember request.user).before fun _ _ => ?_
  refine (Looks.ofOutcome _).before fun expiresAt _ => ?_
  refine looks_newId.before fun id hid => ?_
  refine (Looks.ofOutcome _).before fun o ho => ?_
  refine Behaves.change ?_ (Nat.le_add_left _ _) fun _ y m => ?_
  · rw [Override.eq_of_create ho]
    exact ⟨rfl, hid (by decide)⟩
  · refine (Authorization.behaves_forgetUser (Set.Subset.refl _)).bind fun _ y m => ?_
    exact (behaves_report rfl).bind fun _ _ _ => Behaves.pure

/-- An override that was found is stored again, with another end or revoked. -/
theorem behaves_storeOverride {id : OverrideId} {stored o : Override} {granted : Bool}
    {expiresAt revokedAt : Option Instant}
    (hstored : x.store.findOverride actor.organization id = some stored)
    (ho : o = { stored with granted, expiresAt, revokedAt }) :
    Behaves actor.organization s x ∅ n (storeOverride s actor o) := by
  obtain ⟨-, rfl, -⟩ := Store.findOverride_eq_some.mp hstored
  subst ho
  exact Behaves.change ⟨stored, hstored, rfl, rfl⟩ (Nat.zero_le _) fun _ y m =>
    Authorization.behaves_forgetUser (Set.Subset.refl _)

theorem behaves_revokeOverride (id : OverrideId) :
    Behaves actor.organization s x ∅ n (revokeOverride s actor id) := by
  refine (looks_managedOverride id).before fun stored hstored => ?_
  refine (Looks.ofOutcome _).before fun o ho => ?_
  refine (behaves_storeOverride hstored (Override.eq_of_revoke ho)).bind fun _ y m => ?_
  exact (behaves_report rfl).bind fun _ _ _ => Behaves.pure

theorem behaves_extendOverride (id : OverrideId) (expiresAt : Instant) :
    Behaves actor.organization s x ∅ n (extendOverride s actor id expiresAt) := by
  refine (looks_managedOverride id).before fun stored hstored => ?_
  refine (Looks.ofOutcome _).before fun o ho => ?_
  refine (behaves_storeOverride hstored (Override.eq_of_extend ho)).bind fun _ y m => ?_
  exact (behaves_report rfl).bind fun _ _ _ => Behaves.pure

/-! ## All operations -/

/-- Every operation acts for the organization of its actor and leaves nothing out of date. -/
theorem Operation.behaves_perform (op : Operation) :
    Behaves actor.organization s x ∅ (n + 1) (op.perform s actor) := by
  cases op with
  | listRoles => exact Behaves.of_looks looks_listRoles
  | createRole draft => exact behaves_createRole draft
  | duplicateRole id copy => exact behaves_duplicateRole id copy
  | updateRole id change => exact behaves_updateRole id change
  | deleteRole id => exact behaves_deleteRole id
  | assignRole user id => exact behaves_assignRole user id
  | addPermission id draft => exact behaves_addPermission id draft
  | removePermission id permission => exact behaves_removePermission id permission
  | createDelegation request => exact behaves_createDelegation request
  | revokeDelegation id => exact behaves_revokeDelegation id
  | extendDelegation id endsAt => exact behaves_extendDelegation id endsAt
  | listDelegations f => exact Behaves.of_looks (looks_listDelegations f)
  | grantOverride request => exact behaves_grantOverride request
  | revokeOverride id => exact behaves_revokeOverride id
  | extendOverride id expiresAt => exact behaves_extendOverride id expiresAt
  | listOverrides f => exact Behaves.of_looks (looks_listOverrides f)
  | listEntries q => exact Behaves.of_looks (looks_listEntries q)
  | auditSummary window => exact Behaves.of_looks (looks_auditSummary window)
  | exportEntries window => exact Behaves.of_looks (looks_exportEntries window)
  | purgeEntries days => exact Behaves.of_looks (looks_purgeEntries days)

end AccessControl.Administration

import AccessControl.Proofs.Issuance
import AccessControl.Proofs.Reporting

/-!
# The checks that operations make, and what they report

`Operation.checks` lists the checks that an operation makes of its actor, in their order, as far as
it comes to them while all of them are passed.  The first check that is not passed ends the
operation and is entered into the log; where all are passed the operation enters what it has done,
if it has done anything (`Operation.deed?`).

`Checks s b actor checks p R` says this of a program started in any account whose state is calm
after `b`: it makes these checks and then files records as `R` says (`Operation.checks_perform`).
-/

namespace AccessControl

open Service Backend

/-! ## Programs that only look around -/

/-- What a silent program learns while nothing is disturbed. -/
theorem Silent.learns {α : Type} {s : Setting} {b : Backend} {x : Account} {p : Service α}
    {F : α → Prop} (h : Silent p) (hlearns : Learns s b p F) (hx : Calm s b x.state) :
    Comes x p fun r y => (r, y.state) = x.state.run p ∧ y.told = x.told ∧ Calm s b y.state ∧
      ∀ a, r = .ok a → F a := by
  refine (h.comes x).mono fun r y hy => ⟨hy.1, hy.2, ?_⟩
  have hends := hlearns x.state hx
  rw [← hy.1] at hends
  cases r with
  | ok a => exact ⟨hends.1, fun _ heq => Except.ok.inj heq ▸ hends.2⟩
  | error fault => exact ⟨hends, nofun⟩

/-- The program does not fail while all calls are in order. -/
def Sure {α : Type} (p : Service α) : Prop :=
  ∀ c : Backend, c.broken = [] → ∃ a, (c.run p).1 = .ok a

section Sure

variable {α β : Type} {p : Service α} {f : α → Service β} {s : Setting}

theorem Sure.pure {a : α} : Sure (pure a : Service α) := fun _ _ => ⟨a, rfl⟩

theorem Sure.bind (h : Sure p) (hf : ∀ a, Sure (f a)) : Sure (p >>= f) := by
  intro c hc
  obtain ⟨a, ha⟩ := h c hc
  rcases hrun : c.run p with ⟨r, d⟩
  obtain rfl : r = .ok a := by rw [← ha, hrun]
  have hd : d.broken = [] := by rw [← hc, ← broken_run c p, hrun]
  rw [run_bind_ok hrun]
  exact hf a d hd

theorem sure_ask {c : Call} (h : ∀ b : Backend, ∃ a, (b.serve c).1 = .ok a) : Sure (ask c) := by
  intro b hb
  rw [Authorization.run_ask_of_working hb]
  exact h b

theorem Authorization.sure_explain {organization : OrganizationId} (user : Option UserId)
    (action : Action) (target : Target) : Sure (explain s organization user action target) := by
  cases user with
  | none => exact Sure.pure.bind fun _ => Sure.pure
  | some user => exact fun c hc => ⟨_, run_explain_of_working hc organization user action target⟩

/-- A program that does not fail comes to what it learns. -/
theorem Service.Learns.finishes {b c : Backend} {F : α → Prop} (h : Learns s b p F) (hsure : Sure p)
    (hworking : b.broken = []) (hc : Calm s b c) :
    Finishes c p fun a d => Calm s b d ∧ F a := by
  obtain ⟨a, ha⟩ := hsure c (hc.broken.trans hworking)
  have hends := h c hc
  rcases hrun : c.run p with ⟨r, d⟩
  obtain rfl : r = .ok a := by rw [← ha, hrun]
  rw [hrun] at hends
  exact ⟨a, d, hrun, hends⟩

end Sure

/-- Something that an actor may have to be permitted. -/
structure Check where
  action : Action
  target : Target
deriving DecidableEq, Repr

namespace Administration

variable {s : Setting} {b : Backend} {actor : Actor}

theorem sure_memberResource (m : Member) (user : UserId) : Sure (memberResource actor m user) := by
  refine Sure.bind ?_ fun _ => Sure.pure
  cases m.role with
  | legacy r => exact Sure.pure
  | dynamic id =>
      exact (sure_ask (c := .findRole actor.organization id) fun _ => ⟨_, rfl⟩).bind
        fun _ => Sure.pure

theorem sure_membershipResource? (user : UserId) : Sure (membershipResource? actor user) := by
  refine (sure_ask (c := .findMember actor.organization user) fun _ => ⟨_, rfl⟩).bind fun m => ?_
  cases m with
  | none => exact Sure.pure
  | some m => exact (sure_memberResource m user).bind fun _ => Sure.pure

theorem sure_managedTarget (o : Override) : Sure (managedTarget actor o) := by
  rw [managedTarget]
  split
  · exact Sure.pure
  · split
    · exact Sure.pure
    · exact (sure_membershipResource? _).bind fun _ => Sure.pure
  · exact Sure.pure

/-! ## Checks -/

/-- The first of the checks that the actor does not pass. -/
def firstDenied (b : Backend) (s : Setting) (actor : Actor) (checks : List Check) : Option Check :=
  checks.find? fun check =>
    !(b.rules s actor.organization actor.user).permits check.action check.target

/-- The fault of one who does not pass the check. -/
def refusal (actor : Actor) (check : Check) : Fault :=
  .notPermitted actor.user check.action.name check.target.resourceType.name actor.organization

/-- The audit record of a check, as the actor's rules decide it. -/
def verdictRecord (b : Backend) (s : Setting) (actor : Actor) (check : Check) : AuditRecord :=
  Authorization.decisionRecord actor.organization (some actor.user) actor.context check.action
    check.target ((b.rules s actor.organization actor.user).explain check.action check.target)

/-- How a program ends that makes some checks first, and the records that it has filed. -/
inductive Checked {α : Type} (b : Backend) (s : Setting) (actor : Actor) (checks : List Check)
    (R : α → List AuditRecord → Prop) : Outcome α → List AuditRecord → Prop
  | refused {check : Check} (hdenied : firstDenied b s actor checks = some check) :
      Checked b s actor checks R (.error (refusal actor check))
        (s.recorded (verdictRecord b s actor check))
  | failed {fault : Fault} {rs : List AuditRecord}
      (hpassed : b.broken = [] → firstDenied b s actor checks = none)
      (hrs : ∀ r ∈ rs, r.permitted = true) : Checked b s actor checks R (.error fault) rs
  | done {a : α} {rs : List AuditRecord} (hpassed : firstDenied b s actor checks = none)
      (hR : R a rs) : Checked b s actor checks R (.ok a) rs

theorem Checked.of_ok {α : Type} {checks : List Check} {R : α → List AuditRecord → Prop} {a : α}
    {rs : List AuditRecord} (h : Checked b s actor checks R (.ok a) rs) :
    firstDenied b s actor checks = none ∧ R a rs := by
  cases h with
  | done hpassed hR => exact ⟨hpassed, hR⟩

/-- The program makes the checks one after the other, and then files records as `R` says. -/
def Checks {α : Type} (s : Setting) (b : Backend) (actor : Actor) (checks : List Check)
    (p : Service α) (R : α → List AuditRecord → Prop) : Prop :=
  ∀ x : Account, Calm s b x.state →
    Comes x p fun r y => ∃ rs, y.told = x.told ++ rs ∧ Checked b s actor checks R r rs

section Checks

variable {α β : Type} {p : Service α} {f : α → Service β} {F : α → Prop}
  {R : β → List AuditRecord → Prop} {cs : List Check} {x : Account}

theorem Checks.of_files {p : Service β} (h : Files p R) : Checks s b actor [] p R := by
  refine fun x _ => (h x).mono fun r y hy => ?_
  obtain ⟨rs, htold, hfiled⟩ := hy
  refine ⟨rs, htold, ?_⟩
  cases hfiled with
  | done hR => exact .done rfl hR
  | failed hrs => exact .failed (fun _ => rfl) hrs

theorem Checks.fail {fault : Fault} :
    Checks s b actor [] (Program.fail fault : Service β) R :=
  fun _ _ => Comes.fail ⟨[], (List.append_nil _).symm, .failed (fun _ => rfl) (by simp)⟩

theorem Checks.found {a : α} {fault : Fault} (hf : Checks s b actor cs (f a) R) :
    Checks s b actor cs (Service.found fault (some a) >>= f) R := hf

/-- Look for something that is there, before the checks are made. -/
theorem Checks.look (h : Silent p) (hsure : Sure p) (hlearns : Learns s b p F)
    (hf : ∀ a, F a → Checks s b actor cs (f a) R) : Checks s b actor cs (p >>= f) R := by
  refine fun x hx => Comes.bind (h.learns hlearns hx) ?_ ?_
  · rintro a y ⟨-, htold, hy, hF⟩
    exact htold ▸ hf a (hF a rfl) y hy
  · rintro fault y ⟨hrun, htold, -⟩
    refine ⟨[], htold.trans (List.append_nil _).symm, .failed (fun hworking => ?_) (by simp)⟩
    obtain ⟨a, ha⟩ := hsure x.state (hx.broken.trans hworking)
    rw [← hrun] at ha
    cases ha

theorem firstDenied_cons_of_permits {check : Check} (cs : List Check)
    (h : (b.rules s actor.organization actor.user).permits check.action check.target = true) :
    firstDenied b s actor (check :: cs) = firstDenied b s actor cs := by
  simp [firstDenied, h]

theorem firstDenied_cons_of_denies {check : Check} (cs : List Check)
    (h : (b.rules s actor.organization actor.user).permits check.action check.target = false) :
    firstDenied b s actor (check :: cs) = some check := by
  simp [firstDenied, h]

/-- Make the first check. -/
theorem Checks.require {check : Check} {f : Unit → Service β}
    (hf : Checks s b actor cs (f ()) R) :
    Checks s b actor (check :: cs)
      (Authorization.require s actor check.action check.target >>= f) R := by
  refine fun x hx => ?_
  rw [Authorization.require, Program.bind_assoc]
  refine Comes.bind ((Authorization.silent_explain _ _ _).learns
    (Authorization.learns_explain check.action check.target) hx) ?_ ?_
  · rintro e y ⟨-, htold, hy, he⟩
    obtain rfl := he e rfl
    split
    · rename_i hpermitted
      have hpermits : (b.rules s actor.organization actor.user).permits check.action check.target =
        true := hpermitted
      refine (hf y hy).mono fun r z hz => ?_
      obtain ⟨rs, htold', hchecked⟩ := hz
      refine ⟨rs, htold ▸ htold', ?_⟩
      have hsame := firstDenied_cons_of_permits cs hpermits
      cases hchecked with
      | refused hdenied => exact .refused (hsame.trans hdenied)
      | failed hpassed hrs => exact .failed (fun hworking => hsame.trans (hpassed hworking)) hrs
      | done hpassed hR => exact .done (hsame.trans hpassed) hR
    · rename_i hdenied
      have hdenies := firstDenied_cons_of_denies cs (Bool.not_eq_true _ ▸ hdenied)
      rw [Authorization.refuse, Program.bind_assoc]
      refine Comes.bind (Authorization.comes_recordDecision y s _) ?_ ?_
      · rintro _ _ ⟨-, rfl⟩
        exact Comes.fail ⟨_, by rw [htold]; rfl, .refused hdenies⟩
      · rintro fault _ ⟨⟨⟩, -⟩
  · rintro fault y ⟨hrun, htold, -⟩
    refine ⟨[], htold.trans (List.append_nil _).symm, .failed (fun hworking => ?_) (by simp)⟩
    have hexplained := run_explain_of_working (s := s) (hx.broken.trans hworking)
      actor.organization actor.user check.action check.target
    rw [← hrun] at hexplained
    cases hexplained

/-- A check by itself enters nothing but a refusal. -/
theorem checks_require (action : Action) (target : Target) :
    Checks s b actor [⟨action, target⟩] (Authorization.require s actor action target)
      fun _ rs => rs = [] := by
  have hchecks : Checks s b actor [⟨action, target⟩]
      (Authorization.require s actor action target >>= pure) fun _ rs => rs = [] :=
    Checks.require (.of_files (Files.pure rfl))
  rwa [Program.bind_pure] at hchecks

end Checks

/-! ## What is entered -/

/-- What an operation has done, with the type and the identifier of what it was done to. -/
structure Deed where
  action : AuditAction
  resourceType : String
  resourceId : String
deriving DecidableEq, Repr

/-- One record of what was done, and none where nothing was done. -/
def Entered (actor : Actor) (deed? : Option Deed) (rs : List AuditRecord) : Prop :=
  match deed? with
  | none => rs = []
  | some deed => ∃ detail,
      rs = [operationRecord actor deed.action deed.resourceType deed.resourceId detail]

namespace Deed

def onRole (action : AuditAction) (id : RoleId) : Deed :=
  ⟨action, ResourceType.role.name, id.toString⟩

def onDelegation (action : AuditAction) (id : DelegationId) : Deed :=
  ⟨action, delegationName, id.toString⟩

def onOverride (action : AuditAction) (id : OverrideId) : Deed :=
  ⟨action, overrideName, id.toString⟩

end Deed

/-! ## Operations on roles -/

theorem checks_listRoles :
    Checks s b actor [⟨.read, .ofType .role⟩] (listRoles s actor) fun _ => Entered actor none :=
  Checks.require (.of_files
    ((silent_ask (c := .listRoles actor.organization) not_false).files fun _ => rfl))

theorem checks_createRole (draft : RoleDraft) :
    Checks s b actor [⟨.create, .ofType .role⟩] (createRole s actor draft) fun role =>
      Entered actor (some (.onRole .roleCreated role.id)) := by
  refine Checks.require (.of_files ?_)
  refine (Silent.ofOutcome _).before fun key => ?_
  refine (Silent.ofOutcome _).before fun name => ?_
  refine (Silent.ofOutcome _).before fun priority => ?_
  refine (silent_requirePriority priority).before fun _ => ?_
  refine (Silent.ofOutcome _).before fun grants => ?_
  refine (silent_requireFreeKey key).before fun _ => ?_
  refine (silent_storeRole key name priority grants).before fun role => ?_
  exact Files.report rfl (Files.pure ⟨_, rfl⟩)

theorem checks_duplicateRole (id : RoleId) (copy : RoleCopy) :
    Checks s b actor [⟨.create, .ofType .role⟩] (duplicateRole s actor id copy) fun role =>
      Entered actor (some (.onRole .roleDuplicated role.id)) := by
  refine Checks.require (.of_files ?_)
  refine (silent_findRole id).before fun source => ?_
  refine (silent_requirePriority source.priority).before fun _ => ?_
  refine (Silent.ofOutcome _).before fun key => ?_
  refine (Silent.ofOutcome _).before fun name => ?_
  refine (silent_requireFreeKey key).before fun _ => ?_
  refine (silent_storeRole key name source.priority source.grants).before fun role => ?_
  exact Files.report rfl (Files.pure ⟨_, rfl⟩)

/-- The one check of an editable role is made first. -/
theorem checks_editableRole {α : Type} {R : α → List AuditRecord → Prop} {f : Role → Service α}
    (id : RoleId) (hf : ∀ role, Files (f role) R) :
    Checks s b actor [⟨.update, .ofType .role⟩] (editableRole s actor id >>= f) R := by
  rw [editableRole, Program.bind_assoc]
  refine Checks.require (.of_files ?_)
  rw [Program.bind_assoc]
  refine (silent_findRole id).before fun role => ?_
  rw [Program.bind_assoc]
  refine (Silent.ofOutcome _).before fun _ => ?_
  rw [Program.bind_assoc]
  exact (silent_requirePriority role.priority).before fun _ => hf role

theorem checks_updateRole (id : RoleId) (change : RoleChange) :
    Checks s b actor [⟨.update, .ofType .role⟩] (updateRole s actor id change) fun role =>
      Entered actor (some (.onRole .roleUpdated role.id)) := by
  refine checks_editableRole id fun stored => ?_
  refine (Silent.ofOutcome _).before fun name => ?_
  refine (silent_changedPriority stored change.priority).before fun priority => ?_
  refine (silent_ask (c := .updateRole _) not_false).before fun _ => ?_
  refine Authorization.silent_forgetOrganization.before fun _ => ?_
  exact Files.report rfl (Files.pure ⟨_, rfl⟩)

theorem checks_deleteRole (id : RoleId) :
    Checks s b actor [⟨.destroy, .ofType .role⟩] (deleteRole s actor id) fun _ =>
      Entered actor (some (.onRole .roleDeleted id)) := by
  refine Checks.require (.of_files ?_)
  refine (silent_findRole id).before fun role => ?_
  refine (Silent.ofOutcome _).before fun _ => ?_
  refine (silent_requirePriority role.priority).before fun _ => ?_
  refine (silent_requireUnused role id).before fun _ => ?_
  refine (silent_ask (c := .deleteRole actor.organization id) not_false).before fun _ => ?_
  refine Authorization.silent_forgetOrganization.before fun _ => ?_
  exact files_report ⟨_, rfl⟩

theorem checks_addPermission (id : RoleId) (draft : GrantDraft) :
    Checks s b actor [⟨.update, .ofType .role⟩] (addPermission s actor id draft) fun _ =>
      Entered actor (some (.onRole .rolePermissionAdded id)) := by
  refine checks_editableRole id fun role => ?_
  refine (Silent.ofOutcome _).before fun grant => ?_
  refine (Silent.ofOutcome _).before fun _ => ?_
  refine (silent_ask (c := .addGrant actor.organization id grant) not_false).before fun _ => ?_
  refine Authorization.silent_forgetOrganization.before fun _ => ?_
  exact Files.report rfl ((silent_findRole id).files fun _ => ⟨_, rfl⟩)

theorem checks_removePermission (id : RoleId) (permission : Permission) :
    Checks s b actor [⟨.update, .ofType .role⟩] (removePermission s actor id permission) fun _ =>
      Entered actor (some (.onRole .rolePermissionRemoved id)) := by
  refine checks_editableRole id fun role => ?_
  refine (Silent.ofOutcome _).before fun _ => ?_
  refine (silent_ask (c := .removeGrant actor.organization id permission) not_false).before
    fun _ => ?_
  refine Authorization.silent_forgetOrganization.before fun _ => ?_
  exact Files.report rfl ((silent_findRole id).files fun _ => ⟨_, rfl⟩)

/-- The role of a member who is there is changed by those who may change it. -/
def memberChecks (b : Backend) (actor : Actor) (user : UserId) : List Check :=
  match membershipOf? b actor user with
  | none => []
  | some resource => [⟨.changeRole, .resource resource⟩]

theorem checks_assignRole (user : UserId) (id : RoleId) :
    Checks s b actor (memberChecks b actor user) (assignRole s actor user id) fun _ =>
      Entered actor (some ⟨.roleAssigned, ResourceType.membership.name, user.toString⟩) := by
  refine Checks.look (silent_ask not_false) (sure_ask fun _ => ⟨_, rfl⟩)
    (learns_ask_store (.findMember actor.organization user)
      (·.findMember actor.organization user) fun _ => rfl) fun m hm => ?_
  rw [memberChecks, membershipOf?, ← hm.1]
  cases m with
  | none => exact Checks.fail
  | some m =>
      refine Checks.found ?_
      refine Checks.look (silent_memberResource m user) (sure_memberResource m user)
        (learns_memberResource actor m user) fun resource hresource => ?_
      subst hresource
      refine Checks.require (.of_files ?_)
      refine (silent_findRole id).before fun role => ?_
      refine (silent_requirePriority role.priority).before fun _ => ?_
      refine (silent_ask (c := .setMemberRole actor.organization user _) not_false).before
        fun changed => ?_
      refine Authorization.silent_forgetUser.before fun _ => ?_
      exact Files.report rfl (Files.pure ⟨_, rfl⟩)

/-! ## Operations on delegations -/

theorem checks_createDelegation (request : DelegationRequest) :
    Checks s b actor [] (createDelegation s actor request) fun d =>
      Entered actor (some (.onDelegation .delegationCreated d.id)) := by
  refine .of_files ?_
  refine silent_ownPriority.before fun own => ?_
  refine (silent_shareOf request).before fun share => ?_
  refine (silent_requireActiveMember request.delegatee).before fun _ => ?_
  refine (silent_newId .delegation (by decide)).before fun id => ?_
  refine (Silent.ofOutcome _).before fun d => ?_
  refine (silent_ask (c := .createDelegation d) not_false).before fun _ => ?_
  refine Authorization.silent_forgetUser.before fun _ => ?_
  exact Files.report rfl (Files.pure ⟨_, rfl⟩)

/-- Whoever did not give a delegation has to manage members. -/
def delegationChecks (b : Backend) (actor : Actor) (id : DelegationId) : List Check :=
  match b.store.findDelegation actor.organization id with
  | none => []
  | some d => if d.delegator = actor.user then [] else [⟨.manage, .ofType .membership⟩]

theorem checks_managedDelegation {α : Type} {R : α → List AuditRecord → Prop}
    {f : Delegation → Service α} (id : DelegationId) (hf : ∀ d, Files (f d) R) :
    Checks s b actor (delegationChecks b actor id) (managedDelegation s actor id >>= f) R := by
  rw [managedDelegation, Program.bind_assoc]
  refine Checks.look (silent_ask not_false) (sure_ask fun _ => ⟨_, rfl⟩)
    (learns_ask_store (.findDelegation actor.organization id)
      (·.findDelegation actor.organization id) fun _ => rfl) fun d hd => ?_
  rw [delegationChecks, ← hd.1]
  cases d with
  | none => exact Checks.fail
  | some d =>
      rw [Program.bind_assoc]
      change Checks s b actor (if d.delegator = actor.user then _ else _)
        ((if d.delegator = actor.user then _ else _) >>= f) R
      by_cases hgiven : d.delegator = actor.user
      · rw [if_pos hgiven, if_pos hgiven]
        exact .of_files (hf d)
      · rw [if_neg hgiven, if_neg hgiven, Program.bind_assoc]
        exact Checks.require (.of_files (hf d))

theorem checks_revokeDelegation (id : DelegationId) :
    Checks s b actor (delegationChecks b actor id) (revokeDelegation s actor id) fun d =>
      Entered actor (some (.onDelegation .delegationRevoked d.id)) := by
  refine checks_managedDelegation id fun stored => ?_
  refine (Silent.ofOutcome _).before fun d => ?_
  refine (silent_storeDelegation d).before fun _ => ?_
  exact Files.report rfl (Files.pure ⟨_, rfl⟩)

theorem checks_extendDelegation (id : DelegationId) (endsAt : Instant) :
    Checks s b actor (delegationChecks b actor id) (extendDelegation s actor id endsAt) fun d =>
      Entered actor (some (.onDelegation .delegationExtended d.id)) := by
  refine checks_managedDelegation id fun stored => ?_
  refine (Silent.ofOutcome _).before fun d => ?_
  refine (silent_storeDelegation d).before fun _ => ?_
  exact Files.report rfl (Files.pure ⟨_, rfl⟩)

theorem checks_listDelegations (f : ListFilter) :
    Checks s b actor [⟨.read, .ofType .membership⟩] (listDelegations s actor f) fun _ =>
      Entered actor none := by
  refine Checks.require (.of_files ?_)
  exact (silent_ask (c := .listDelegations actor.organization f.user) not_false).before
    fun _ => Files.pure rfl

/-! ## Operations on overrides -/

/-- The resource on which an override is granted, where it can be told and is there. -/
def issuedOn? (b : Backend) (actor : Actor) (t : ResourceType) (resourceId : String) :
    Option Target :=
  if t = .membership then
    match (Id.parse resourceId : Outcome UserId) with
    | .error _ => none
    | .ok user => (membershipOf? b actor user).map .resource
  else some (.resource { resourceType := t, id := resourceId, organization := actor.organization })

/-- The same check on one target for each action. -/
def checksOn (target : Target) (actions : List Action) : List Check :=
  actions.map fun action => ⟨action, target⟩

/-- The issuer manages the resource and holds all that the permission covers there. -/
def issuerChecks (b : Backend) (actor : Actor) (request : OverrideRequest) : List Check :=
  if request.user = actor.user then []
  else
    (issuedOn? b actor request.permission.resourceType (Text.trim request.resourceId)).elim []
      fun target => checksOn target (.manage :: request.permission.coveredActions)

theorem checks_requireAll {α : Type} {R : α → List AuditRecord → Prop} {f : Unit → Service α}
    (target : Target) (actions : List Action) (hf : Files (f ()) R) :
    Checks s b actor (checksOn target actions) (requireAll s actor target actions >>= f) R := by
  induction actions with
  | nil => exact .of_files hf
  | cons action rest ih =>
      rw [requireAll, Program.bind_assoc]
      exact Checks.require ih

/-- Where the resource can be told, the program goes on with it. -/
theorem checks_overrideTarget {α : Type} {R : α → List AuditRecord → Prop}
    {f : Target → Service α} {cs : Target → List Check} (t : ResourceType) (resourceId : String)
    (hf : ∀ target, Checks s b actor (cs target) (f target) R) :
    Checks s b actor ((issuedOn? b actor t resourceId).elim [] cs)
      (overrideTarget actor t resourceId >>= f) R := by
  rw [overrideTarget, issuedOn?]
  by_cases hmembership : t = .membership
  · rw [if_pos hmembership, if_pos hmembership, Program.bind_assoc]
    generalize (Id.parse resourceId : Outcome UserId) = parsed
    cases parsed with
    | error fault => exact Checks.fail
    | ok user =>
        change Checks s b actor _ ((membershipResource? actor user >>= _ : Service Target) >>= f) R
        rw [Program.bind_assoc]
        refine Checks.look (silent_membershipResource? user) (sure_membershipResource? user)
          (learns_membershipResource? user) fun resource hresource => ?_
        subst hresource
        dsimp only
        cases membershipOf? b actor user with
        | none => exact Checks.fail
        | some resource => exact hf (.resource resource)
  · rw [if_neg hmembership, if_neg hmembership]
    exact hf _

theorem checks_grantOverride (request : OverrideRequest) :
    Checks s b actor (issuerChecks b actor request) (grantOverride s actor request) fun o =>
      Entered actor (some (.onOverride .overrideGranted o.id)) := by
  rw [grantOverride, issuerChecks]
  by_cases hself : request.user = actor.user
  · rw [if_pos hself, if_pos hself]
    exact Checks.fail
  · rw [if_neg hself, if_neg hself]
    refine checks_overrideTarget _ _ fun target => ?_
    refine checks_requireAll target _ ?_
    refine (silent_requireActiveMember request.user).before fun _ => ?_
    refine (Silent.ofOutcome _).before fun expiresAt => ?_
    refine (silent_newId .override (by decide)).before fun id => ?_
    refine (Silent.ofOutcome _).before fun o => ?_
    refine (silent_ask (c := .createOverride o) not_false).before fun _ => ?_
    refine Authorization.silent_forgetUser.before fun _ => ?_
    exact Files.report rfl (Files.pure ⟨_, rfl⟩)

/-- Whoever deals with an override manages what it is about. -/
def overrideChecks (b : Backend) (actor : Actor) (id : OverrideId) : List Check :=
  match b.store.findOverride actor.organization id with
  | none => []
  | some o => [⟨.manage, managedOn b actor o⟩]

theorem checks_managedOverride {α : Type} {R : α → List AuditRecord → Prop}
    {f : Override → Service α} (id : OverrideId) (hf : ∀ o, Files (f o) R) :
    Checks s b actor (overrideChecks b actor id) (managedOverride s actor id >>= f) R := by
  rw [managedOverride, Program.bind_assoc]
  refine Checks.look (silent_ask not_false) (sure_ask fun _ => ⟨_, rfl⟩)
    (learns_ask_store (.findOverride actor.organization id)
      (·.findOverride actor.organization id) fun _ => rfl) fun o ho => ?_
  rw [overrideChecks, ← ho.1]
  cases o with
  | none => exact Checks.fail
  | some o =>
      rw [Program.bind_assoc]
      refine Checks.found ?_
      rw [Program.bind_assoc]
      refine Checks.look (silent_managedTarget o) (sure_managedTarget o)
        (learns_managedTarget o) fun target htarget => ?_
      subst htarget
      rw [Program.bind_assoc]
      exact Checks.require (.of_files (hf o))

theorem checks_revokeOverride (id : OverrideId) :
    Checks s b actor (overrideChecks b actor id) (revokeOverride s actor id) fun o =>
      Entered actor (some (.onOverride .overrideRevoked o.id)) := by
  refine checks_managedOverride id fun stored => ?_
  refine (Silent.ofOutcome _).before fun o => ?_
  refine (silent_storeOverride o).before fun _ => ?_
  exact Files.report rfl (Files.pure ⟨_, rfl⟩)

theorem checks_extendOverride (id : OverrideId) (expiresAt : Instant) :
    Checks s b actor (overrideChecks b actor id) (extendOverride s actor id expiresAt) fun o =>
      Entered actor (some (.onOverride .overrideExtended o.id)) := by
  refine checks_managedOverride id fun stored => ?_
  refine (Silent.ofOutcome _).before fun o => ?_
  refine (silent_storeOverride o).before fun _ => ?_
  exact Files.report rfl (Files.pure ⟨_, rfl⟩)

theorem checks_listOverrides (f : ListFilter) :
    Checks s b actor [⟨.read, .ofType .membership⟩] (listOverrides s actor f) fun _ =>
      Entered actor none := by
  refine Checks.require (.of_files ?_)
  exact (silent_ask (c := .listOverrides actor.organization f.user) not_false).before
    fun _ => Files.pure rfl

/-! ## All operations -/

namespace Operation

/-- The checks that the operation makes, as far as it comes to them while all are passed. -/
def checks (b : Backend) (actor : Actor) : Operation → List Check
  | listRoles => [⟨.read, .ofType .role⟩]
  | createRole _ | duplicateRole .. => [⟨.create, .ofType .role⟩]
  | updateRole .. | addPermission .. | removePermission .. => [⟨.update, .ofType .role⟩]
  | deleteRole _ => [⟨.destroy, .ofType .role⟩]
  | assignRole user _ => memberChecks b actor user
  | createDelegation _ => []
  | revokeDelegation id | extendDelegation id _ => delegationChecks b actor id
  | listDelegations _ | listOverrides _ => [⟨.read, .ofType .membership⟩]
  | grantOverride request => issuerChecks b actor request
  | revokeOverride id | extendOverride id _ => overrideChecks b actor id
  | listEntries _ | auditSummary _ => [⟨.read, .ofType .auditLog⟩]
  | exportEntries _ => [⟨.exportData, .ofType .auditLog⟩]
  | purgeEntries _ => [⟨.destroy, .ofType .auditLog⟩]

/-- What the operation has done when it comes to the result.  Reading does nothing. -/
def deed? (actor : Actor) : (op : Operation) → op.Result → Option Deed
  | listRoles, _ | listDelegations _, _ | listOverrides _, _ | listEntries _, _
  | auditSummary _, _ | exportEntries _, _ => none
  | createRole _, role => some (.onRole .roleCreated role.id)
  | duplicateRole .., role => some (.onRole .roleDuplicated role.id)
  | updateRole .., role => some (.onRole .roleUpdated role.id)
  | deleteRole id, _ => some (.onRole .roleDeleted id)
  | assignRole user _, _ =>
    some ⟨.roleAssigned, ResourceType.membership.name, user.toString⟩
  | addPermission id _, _ => some (.onRole .rolePermissionAdded id)
  | removePermission id _, _ => some (.onRole .rolePermissionRemoved id)
  | createDelegation _, d => some (.onDelegation .delegationCreated d.id)
  | revokeDelegation _, d => some (.onDelegation .delegationRevoked d.id)
  | extendDelegation .., d => some (.onDelegation .delegationExtended d.id)
  | grantOverride _, o => some (.onOverride .overrideGranted o.id)
  | revokeOverride _, o => some (.onOverride .overrideRevoked o.id)
  | extendOverride .., o => some (.onOverride .overrideExtended o.id)
  | purgeEntries _, _ =>
    some ⟨.entriesPurged, ResourceType.auditLog.name, actor.organization.toString⟩

/-- The operation is about the audit log itself. -/
def IsOnLog : Operation → Prop
  | listEntries _ | auditSummary _ | exportEntries _ | purgeEntries _ => True
  | _ => False

/-- Every operation makes its checks first and reports what it has done, and that only. -/
theorem checks_perform {op : Operation} (hop : ¬op.IsOnLog) :
    Checks s b actor (op.checks b actor) (op.perform s actor) fun r =>
      Entered actor (op.deed? actor r) := by
  cases op with
  | listRoles => exact checks_listRoles
  | createRole draft => exact checks_createRole draft
  | duplicateRole id copy => exact checks_duplicateRole id copy
  | updateRole id change => exact checks_updateRole id change
  | deleteRole id => exact checks_deleteRole id
  | assignRole user id => exact checks_assignRole user id
  | addPermission id draft => exact checks_addPermission id draft
  | removePermission id permission => exact checks_removePermission id permission
  | createDelegation request => exact checks_createDelegation request
  | revokeDelegation id => exact checks_revokeDelegation id
  | extendDelegation id endsAt => exact checks_extendDelegation id endsAt
  | listDelegations f => exact checks_listDelegations f
  | grantOverride request => exact checks_grantOverride request
  | revokeOverride id => exact checks_revokeOverride id
  | extendOverride id expiresAt => exact checks_extendOverride id expiresAt
  | listOverrides f => exact checks_listOverrides f
  | listEntries q => exact absurd trivial hop
  | auditSummary window => exact absurd trivial hop
  | exportEntries window => exact absurd trivial hop
  | purgeEntries days => exact absurd trivial hop

end Operation

end Administration

end AccessControl

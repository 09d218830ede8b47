import Mathlib.Order.BooleanAlgebra.Set
import AccessControl.Proofs.Gathering
import AccessControl.Proofs.Inspection

/-!
# How the services conduct themselves

The discipline that the services follow when they act for one organization.  Every call is about
that organization.  Rule sets are handed to the cache as the store gives them at the time, and
changes of the store are made with the records that were found in it or with identifiers that were
just given out.  A change may put remembered rules out of date; those have to be forgotten before
anything else is done, and before the program ends.

`looking` is the part of it that changes nothing in the store.  What a program `Looks` for it reads
off a fixed situation, which is what the store holds and which identifiers come next.
-/

namespace AccessControl

open Service Backend

/-- What the services reckon with between two calls. -/
@[ext] structure Situation where
  store : Store
  /-- The identifiers to be given out next, except to audit entries. -/
  next : (kind : Entity) → Option (Id kind)

def Backend.situation (b : Backend) : Situation where
  store := b.store
  next kind := if kind = .auditEntry then none else some (b.nextId kind)

/-- The call may come to this where the situation is that. -/
def Situation.Answers (x : Situation) (c : Call) (r : Outcome c.Reply) : Prop :=
  ∃ b : Backend, b.situation = x ∧ (b.answer c).1 = r

/-! ## Looking around -/

/-- A call for an organization that leaves the store alone.  What it has remembered is what the
store gives. -/
def Call.Looks (organization : OrganizationId) (s : Setting) (x : Situation) : Call → Prop
  | newId _ => True
  | findMember o _ | findRole o _ | listTeams o _ | listReceivedDelegations o _
  | listReceivedOverrides o _ | listRoles o | findRoleByKey o _ | countMembers o _
  | countDelegations o _ | findDelegation o _ | listDelegations o _ | findOverride o _
  | listOverrides o _ | cachedRules o _ | purgeEntries o _ => o = organization
  | cacheRules o user rules _ =>
    o = organization ∧ rules = x.store.rules organization user s.now
  | appendEntry e => e.organization = organization
  | listEntries q => q.organization = some organization
  | summarize o _ => o = some organization
  | _ => False

/-- Calls that look around, in a situation that stays as it is. -/
def looking (organization : OrganizationId) (s : Setting) :
    Discipline Call Call.Reply Situation where
  allows x c := c.Looks organization s x
  leads x c r y := y = x ∧ x.Answers c r

/-- The program only looks around for the organization, and `F` holds of what it finds. -/
def Looks {α : Type} (organization : OrganizationId) (s : Setting) (x : Situation) (p : Service α)
    (F : α → Prop) : Prop :=
  Program.Meets (looking organization s) x p fun r y => y = x ∧ ∀ a, r = .ok a → F a

section Looks

variable {α β : Type} {organization : OrganizationId} {s : Setting} {x : Situation}
  {p : Service α} {F G : α → Prop}

theorem Looks.mono (h : Looks organization s x p F) (hF : ∀ a, F a → G a) :
    Looks organization s x p G :=
  Program.Meets.mono h fun _ _ hr => ⟨hr.1, fun a ha => hF a (hr.2 a ha)⟩

theorem Looks.pure {a : α} (h : F a) : Looks organization s x (pure a) F := Program.Finds.pure h

theorem Looks.fail {fault : Fault} : Looks organization s x (Program.fail fault : Service α) F :=
  ⟨rfl, fun _ heq => nomatch heq⟩

theorem Looks.bind {f : α → Service β} {G : β → Prop} (h : Looks organization s x p F)
    (hf : ∀ a, F a → Looks organization s x (f a) G) : Looks organization s x (p >>= f) G :=
  Program.Finds.bind h hf

theorem Looks.ofOutcome (r : Outcome α) :
    Looks organization s x (Program.ofOutcome r : Service α) fun a => r = .ok a :=
  ⟨rfl, fun _ heq => heq⟩

theorem Looks.found (fault : Fault) (o : Option α) :
    Looks organization s x (found fault o) fun a => o = some a := by
  cases o with
  | none => exact Looks.fail
  | some a => exact Looks.pure rfl

theorem looks_ask {c : Call} (hc : c.Looks organization s x) {F : c.Reply → Prop}
    (hF : ∀ b : Backend, b.situation = x → ∀ a, (b.answer c).1 = .ok a → F a) :
    Looks organization s x (ask c) F := by
  refine Program.Meets.perform hc ?_
  rintro r y ⟨hy, b, hb, rfl⟩
  exact ⟨hy, hF b hb⟩

/-- A call about which nothing has to be known. -/
theorem looks_call {c : Call} (hc : c.Looks organization s x) :
    Looks organization s x (ask c) fun _ => True :=
  looks_ask hc fun _ _ _ _ => trivial

/-- A question about the records is answered from the store. -/
theorem Backend.eq_of_answer {c : Call} {f : Store → c.Reply} {b : Backend} {a : c.Reply}
    (h : ∀ b : Backend, b.serve c = (.ok (f b.store), b)) (ha : (b.answer c).1 = .ok a) :
    a = f b.store := by
  rw [Backend.answer] at ha
  cases hout : b.outage? c with
  | some fault => simp [hout] at ha
  | none =>
      simp only [hout, h] at ha
      exact (Except.ok.inj ha).symm

theorem tells_of_looks (c : Call) (f : Store → c.Reply) (hc : c.Looks organization s x)
    (h : ∀ b : Backend, b.serve c = (.ok (f b.store), b)) :
    (looking organization s).Tells x c (f x.store) := by
  refine ⟨hc, ?_⟩
  rintro r y ⟨hy, b, rfl, rfl⟩
  exact ⟨hy, fun _ ha => eq_of_answer h ha⟩

theorem looks_ask_store (c : Call) (f : Store → c.Reply) (hc : c.Looks organization s x)
    (h : ∀ b : Backend, b.serve c = (.ok (f b.store), b)) :
    Looks organization s x (ask c) fun a => a = f x.store :=
  finds_ask (tells_of_looks c f hc h)

theorem looks_newId {kind : Entity} :
    Looks organization s x (ask (.newId kind)) fun id =>
      kind ≠ .auditEntry → x.next kind = some id := by
  refine looks_ask (c := .newId kind) trivial ?_
  rintro b rfl id hid hkind
  have hnext : b.nextId kind = id := Except.ok.inj hid
  rw [Backend.situation, ← hnext]
  exact if_neg hkind

theorem Looks.attempt (h : Looks organization s x p F) :
    Looks organization s x p.attempt fun r => ∀ a, r = .ok a → F a :=
  Program.Finds.attempt h

theorem looks_tell {c : Call} (hc : c.Looks organization s x) :
    Looks organization s x (tell c) fun _ => True :=
  (Looks.attempt (looks_call hc)).bind fun _ _ => Looks.pure trivial

end Looks

/-! ## Decisions -/

namespace Audit

theorem finds_record {ξ : Type} {D : Discipline Call Call.Reply ξ} {z : ξ} {now : Instant}
    {r : AuditRecord} (hnew : D.Stays z (.newId .auditEntry))
    (happend : ∀ e : AuditEntry, e.organization = r.organization → D.Stays z (.appendEntry e)) :
    Program.Finds D z (record now r) fun _ => True := by
  refine (Program.Finds.perform hnew).bind fun id _ => ?_
  refine (Program.Finds.perform (happend _ ?_)).attempt.bind fun outcome _ => ?_
  · rfl
  · cases outcome with
    | ok _ => exact Program.Finds.pure trivial
    | error _ => exact Program.Finds.pure trivial

theorem looks_record {organization : OrganizationId} {s : Setting} {x : Situation} {now : Instant}
    {r : AuditRecord} (hr : r.organization = organization) :
    Looks organization s x (record now r) fun _ => True :=
  finds_record ⟨trivial, fun _ _ h => h.1⟩ fun _ he => ⟨he.trans hr, fun _ _ h => h.1⟩

end Audit

namespace Authorization

variable {organization : OrganizationId} {s : Setting} {x : Situation} {user : UserId}

theorem looking_informs :
    (looking organization s).Informs x organization user x.store where
  role id := tells_of_looks (.findRole organization id) (·.findRole organization id) rfl
    fun _ => rfl
  teams := tells_of_looks (.listTeams organization user) (·.teams organization user) rfl
    fun _ => rfl
  delegations := tells_of_looks (.listReceivedDelegations organization user)
    (·.receivedDelegations organization user) rfl fun _ => rfl
  overrides := tells_of_looks (.listReceivedOverrides organization user)
    (·.receivedOverrides organization user) rfl fun _ => rfl

theorem looks_sources :
    Looks organization s x (sources organization user) fun g =>
      g = x.store.sources organization user := by
  rw [sources_eq_gather]
  refine (looks_ask_store (.findMember organization user) (·.findMember organization user) rfl
    fun _ => rfl).bind fun m hm => ?_
  rw [Store.sources_eq_gathered, ← hm]
  exact finds_gather looking_informs m

theorem looks_effectivePriority :
    Looks organization s x (effectivePriority organization user) fun _ => True :=
  looks_sources.bind fun _ _ => Looks.pure trivial

theorem looks_remembered :
    Looks organization s x (remembered s organization user) fun _ => True := by
  rw [remembered]
  cases s.ttl? with
  | none => exact Looks.pure trivial
  | some ttl =>
      refine (Looks.attempt (looks_call (c := .cachedRules organization user) rfl)).bind
        fun outcome _ => ?_
      cases outcome with
      | ok _ => exact Looks.pure trivial
      | error _ => exact Looks.pure trivial

theorem looks_remember {rules : RuleSet} (h : rules = x.store.rules organization user s.now) :
    Looks organization s x (remember s organization user rules) fun _ => True := by
  rw [remember]
  cases s.ttl? with
  | none => exact Looks.pure trivial
  | some ttl => exact looks_tell ⟨rfl, h⟩

theorem looks_memberRuleSet :
    Looks organization s x (memberRuleSet s organization user) fun _ => True := by
  refine looks_remembered.bind fun kept _ => ?_
  cases kept with
  | some rules => exact Looks.pure trivial
  | none =>
      refine looks_sources.bind fun g hg => ?_
      refine (looks_remember ?_).bind fun _ _ => Looks.pure trivial
      rw [hg, Store.rules]

theorem looks_ruleSet (user : Option UserId) :
    Looks organization s x (ruleSet s organization user) fun _ => True := by
  cases user with
  | none => exact Looks.pure trivial
  | some user => exact looks_memberRuleSet

theorem looks_explain (user : Option UserId) (action : Action) (target : Target) :
    Looks organization s x (explain s organization user action target) fun _ => True :=
  (looks_ruleSet user).bind fun _ _ => Looks.pure trivial

theorem looks_authorize (user : Option UserId) (action : Action) (target : Target) :
    Looks organization s x (authorize s organization user action target) fun _ => True :=
  (looks_ruleSet user).bind fun _ _ => Looks.pure trivial

theorem looks_capabilities (user : Option UserId) :
    Looks organization s x (capabilities s organization user) fun _ => True :=
  (looks_ruleSet user).bind fun _ _ => Looks.pure trivial

theorem looks_recordDecision {r : AuditRecord} (hr : r.organization = organization) :
    Looks organization s x (recordDecision s r) fun _ => True := by
  rw [recordDecision]
  split
  · exact (Audit.looks_record hr).bind fun _ _ => Looks.pure trivial
  · exact Looks.pure trivial

theorem looks_decide (user : Option UserId) (context : RequestContext) (action : Action)
    (target : Target) :
    Looks organization s x (decide s organization user context action target) fun _ => True := by
  refine (looks_explain user action target).bind fun e _ => ?_
  refine Looks.bind (looks_recordDecision ?_) fun _ _ => Looks.pure trivial
  rfl

theorem looks_require (actor : Actor) (action : Action) (target : Target) :
    Looks actor.organization s x (require s actor action target) fun _ => True := by
  refine (looks_explain (some actor.user) action target).bind fun e _ => ?_
  split
  · exact Looks.pure trivial
  · refine Looks.bind (looks_recordDecision ?_) fun _ _ => Looks.fail
    rfl

end Authorization

/-! ## Changes -/

namespace Call

/-- A change of the store for an organization.  It is made with an identifier that comes next, or
with what the store holds already. -/
def Changes (organization : OrganizationId) (x : Situation) : Call → Prop
  | createRole role => role.organization = organization ∧ x.next .role = some role.id
  | updateRole role => role.organization = organization
  | deleteRole o _ | addGrant o _ _ | removeGrant o _ _ => o = organization
  | setMemberRole o _ role => o = organization ∧
    ∀ id, role.roleId? = some id → (x.store.findRole organization id).isSome = true
  | createDelegation d => d.organization = organization ∧ x.next .delegation = some d.id ∧
    ∀ id, d.role = some id → (x.store.findRole organization id).isSome = true
  | saveDelegation d => ∃ stored, x.store.findDelegation organization d.id = some stored ∧
    d.organization = stored.organization ∧ d.delegatee = stored.delegatee ∧ d.role = stored.role
  | createOverride o => o.organization = organization ∧ x.next .override = some o.id
  | saveOverride o => ∃ stored, x.store.findOverride organization o.id = some stored ∧
    o.organization = stored.organization ∧ o.user = stored.user
  | _ => False

/-- Rules are forgotten for the organization. -/
def Forgets (organization : OrganizationId) : Call → Prop
  | forgetUser o _ | forgetOrganization o => o = organization
  | _ => False

/-- The users whose rules may become different. -/
def touched : Call → Set UserId
  | updateRole _ | deleteRole .. | addGrant .. | removeGrant .. => Set.univ
  | setMemberRole _ user _ => {user}
  | createDelegation d | saveDelegation d => {d.delegatee}
  | createOverride o | saveOverride o => {o.user}
  | _ => ∅

/-- The users whose rules are forgotten. -/
def forgotten : Call → Set UserId
  | forgetUser _ user => {user}
  | forgetOrganization _ => Set.univ
  | _ => ∅

/-- The users whose remembered rules are out of date after the call, where rules are remembered. -/
def outdated (s : Setting) (c : Call) : Outcome c.Reply → Set UserId
  | .ok _ => if s.cacheTtl.isSome then c.touched else ∅
  | .error _ => ∅

/-- How many records the call creates. -/
def created : Call → Nat
  | createRole _ | createDelegation _ | createOverride _ => 1
  | _ => 0

end Call

/-- Where a service stands that acts for an organization. -/
structure Standing where
  situation : Situation
  /-- The users whose remembered rules are out of date. -/
  stale : Set UserId
  /-- How many records it may still create. -/
  spare : Nat

/-- The discipline of a service that acts for an organization. -/
def conduct (organization : OrganizationId) (s : Setting) :
    Discipline Call Call.Reply Standing where
  allows z c := c.Forgets organization ∨ z.stale = ∅ ∧
    (c.Looks organization s z.situation ∨
      c.Changes organization z.situation ∧ c.created ≤ z.spare)
  leads z c r z' := (∃ b : Backend, b.situation = z.situation ∧ (b.answer c).1 = r ∧
      (b.answer c).2.situation = z'.situation) ∧
    z'.stale = (z.stale ∪ c.outdated s r) \ c.forgotten ∧ z'.spare = z.spare - c.created

/-- The program keeps to the discipline while it creates no more than `n` records, and nothing out
of date is left in the end. -/
def Behaves {α : Type} (organization : OrganizationId) (s : Setting) (x : Situation)
    (stale : Set UserId) (n : Nat) (p : Service α) : Prop :=
  Program.Meets (conduct organization s) ⟨x, stale, n⟩ p fun _ z => z.stale = ∅

section Behaves

variable {α β : Type} {organization : OrganizationId} {s : Setting} {x : Situation} {n : Nat}
  {c : Call} {p : Service α} {F : α → Prop}

theorem Call.Looks.touched_eq (h : c.Looks organization s x) : c.touched = ∅ := by
  cases c <;> first | rfl | exact h.elim

theorem Call.Looks.forgotten_eq (h : c.Looks organization s x) : c.forgotten = ∅ := by
  cases c <;> first | rfl | exact h.elim

theorem Call.Looks.created_eq (h : c.Looks organization s x) : c.created = 0 := by
  cases c <;> first | rfl | exact h.elim

theorem Call.Changes.forgotten_eq (h : c.Changes organization x) : c.forgotten = ∅ := by
  cases c <;> first | rfl | exact h.elim

theorem Call.outdated_of_touched (h : c.touched = ∅) (r : Outcome c.Reply) :
    c.outdated s r = ∅ := by
  cases r with
  | error e => rfl
  | ok a => rw [Call.outdated, h, ite_self]

theorem Backend.Keeps.situation {b d : Backend} (h : Keeps b d) : d.situation = b.situation := by
  refine Situation.ext h.store (funext fun kind => ?_)
  rw [Backend.situation, Backend.situation]
  by_cases hkind : kind = .auditEntry
  · simp [hkind]
  · simp [hkind, h.nextId hkind]

/-- Whoever looks around leaves the records as they are. -/
theorem Call.Looks.keeps (h : c.Looks organization s x) (b : Backend) :
    Keeps b (b.answer c).2 := by
  cases c with
  | appendEntry e => exact b.keeps_appendEntry e
  | _ =>
      rw [Backend.answer]
      split
      · exact .refl
      · first | exact ⟨rfl, rfl, fun _ _ => rfl, rfl⟩ | exact h.elim

theorem Call.Forgets.keeps (h : c.Forgets organization) (b : Backend) :
    Keeps b (b.answer c).2 := by
  rw [Backend.answer]
  cases b.outage? c with
  | some fault => exact .refl
  | none =>
      cases c with
      | forgetUser o user => exact ⟨rfl, rfl, fun _ _ => rfl, rfl⟩
      | forgetOrganization o => exact ⟨rfl, rfl, fun _ _ => rfl, rfl⟩
      | _ => exact h.elim

/-- Looking around is good conduct while nothing is out of date. -/
theorem Looks.conduct (h : Looks organization s x p F) :
    Program.Meets (conduct organization s) ⟨x, ∅, n⟩ p fun r z =>
      z = ⟨x, ∅, n⟩ ∧ ∀ a, r = .ok a → F a := by
  have hmeets := Program.Meets.transfer (E := AccessControl.conduct organization s)
    (I := fun x' z => z = ⟨x', ∅, n⟩) ?_ h rfl
  · refine hmeets.mono ?_
    rintro r z ⟨x', ⟨rfl, hr⟩, rfl⟩
    exact ⟨rfl, hr⟩
  · rintro x' z c rfl hlooks
    refine ⟨.inr ⟨rfl, .inl hlooks⟩, ?_⟩
    rintro r ⟨y, stale, m⟩ ⟨⟨b, rfl, hr, hy⟩, hstale, hspare⟩
    obtain rfl : stale = ∅ := by
      refine hstale.trans ?_
      rw [Call.outdated_of_touched hlooks.touched_eq, hlooks.forgotten_eq]
      simp
    obtain rfl : m = n := by
      rw [hlooks.created_eq] at hspare
      exact hspare
    refine ⟨b.situation, ⟨rfl, b, rfl, hr⟩, ?_⟩
    exact congrArg (Standing.mk · ∅ m) (hy.symm.trans (hlooks.keeps b).situation)

theorem Behaves.of_looks (h : Looks organization s x p F) : Behaves organization s x ∅ n p :=
  h.conduct.mono fun _ _ hr => by rw [hr.1]

/-- Look around first, then go on with what was learned. -/
theorem Looks.before {f : α → Service β} (h : Looks organization s x p F)
    (hf : ∀ a, F a → Behaves organization s x ∅ n (f a)) :
    Behaves organization s x ∅ n (p >>= f) :=
  Program.Finds.before h.conduct hf fun _ => rfl

theorem Behaves.pure {a : α} : Behaves organization s x ∅ n (pure a) := rfl

theorem Behaves.bind {stale : Set UserId} {f : α → Service β}
    (h : Behaves organization s x stale n p)
    (hf : ∀ a y m, Behaves organization s y ∅ m (f a)) :
    Behaves organization s x stale n (p >>= f) := by
  refine Program.Meets.bind h ?_ fun _ _ hz => hz
  rintro a ⟨y, stale', m⟩ rfl
  exact hf a y m

/-- A change, and what is to be done about the rules that it puts out of date. -/
theorem Behaves.change {f : c.Reply → Service β} (hc : c.Changes organization x)
    (hn : c.created ≤ n) (hf : ∀ a y m,
      Behaves organization s y (if s.cacheTtl.isSome then c.touched else ∅) m (f a)) :
    Behaves organization s x ∅ n (ask c >>= f) := by
  refine Program.Meets.bind (Q := fun r z => z.stale = c.outdated s r)
    (Program.Meets.perform (.inr ⟨rfl, .inr ⟨hc, hn⟩⟩) ?_) ?_ ?_
  · rintro r z ⟨-, hstale, -⟩
    rw [hstale, hc.forgotten_eq, Set.sdiff_empty, Set.empty_union]
  · rintro a ⟨y, stale, m⟩ rfl
    exact hf a y m
  · rintro e z hz
    exact hz

/-- A new role puts nothing out of date. -/
theorem meets_createRole {role : Role} (horganization : role.organization = organization)
    (hid : x.next .role = some role.id) (hn : 1 ≤ n) :
    Program.Meets (conduct organization s) ⟨x, ∅, n⟩ (ask (.createRole role)) fun _ z =>
      z.stale = ∅ ∧ z.spare = n - 1 := by
  refine Program.Meets.perform (.inr ⟨rfl, .inr ⟨⟨horganization, hid⟩, hn⟩⟩) ?_
  rintro r z ⟨-, hstale, hspare⟩
  refine ⟨?_, hspare⟩
  rw [hstale, Call.outdated_of_touched rfl, Set.empty_union]
  exact Set.empty_sdiff _

/-- Forgetting does away with what is out of date. -/
theorem Behaves.forget {stale : Set UserId} (hc : c.Forgets organization)
    (hstale : stale ⊆ c.forgotten) (htouched : c.touched = ∅) :
    Behaves organization s x stale n (tell c) := by
  refine Program.Meets.bind (Q := fun _ z => z.stale = ∅)
    (Program.Meets.attempt (Program.Meets.perform (.inl hc) ?_))
    (fun _ _ hz => Program.Meets.pure hz) fun _ _ hz => hz
  rintro r z ⟨-, hz, -⟩
  rw [hz, Call.outdated_of_touched htouched, Set.union_empty]
  exact Set.sdiff_eq_empty.mpr hstale

end Behaves

namespace Authorization

variable {organization : OrganizationId} {s : Setting} {x : Situation} {n : Nat} {user : UserId}
  {touched : Set UserId}

theorem behaves_forgetUser (h : touched ⊆ {user}) :
    Behaves organization s x (if s.cacheTtl.isSome then touched else ∅) n
      (forgetUser s organization user) := by
  rw [forgetUser]
  cases s.cacheTtl with
  | none => exact Behaves.pure
  | some ttl => exact Behaves.forget rfl h rfl

theorem behaves_forgetOrganization :
    Behaves organization s x (if s.cacheTtl.isSome then touched else ∅) n
      (forgetOrganization s organization) := by
  rw [forgetOrganization]
  cases s.cacheTtl with
  | none => exact Behaves.pure
  | some ttl => exact Behaves.forget rfl (Set.subset_univ _) rfl

end Authorization

end AccessControl

import AccessControl.Proofs.Administration.Conduct

/-!
# Asking for rules and assigning a role

Two disciplines for services that work beside others.  Whoever asks for the rules of a member looks
up the membership once.  Everything behind that is answered as the store is then that it was found
in, and the rules that are put into the cache are those of that store
(`Authorization.meets_ruleSet`).

Whoever assigns a role looks around first, while the records stay as they are.  Then the role is
assigned, the rules of the member are forgotten, and only the log is written behind that
(`Administration.meets_assignRole`).
-/

namespace AccessControl

open Service Backend Program

/-! ## The question -/

/-- How far a question for the rules of a member has come. -/
inductive Inquiry where
  | begun
  /-- The membership was looked up in this store. -/
  | found (t : Store)
  /-- Rules were put into the cache. -/
  | kept

/-- A store answers a call like this, or the call fails. -/
def Store.Answers (t : Store) (c : Call) (r : Outcome c.Reply) : Prop :=
  ∃ b : Backend, b.store = t ∧ (b.answer c).1 = r

/-- The membership is looked up once.  What is asked behind it is answered from the same store, and
the rules of that store are put into the cache in the end. -/
def inquiring (organization : OrganizationId) (user : UserId) (s : Setting) :
    Discipline Call Call.Reply Inquiry where
  allows
    | .begun, .cachedRules o u | .begun, .findMember o u => o = organization ∧ u = user
    | .found _, .findRole o _ => o = organization
    | .found _, .listTeams o u | .found _, .listReceivedDelegations o u
    | .found _, .listReceivedOverrides o u => o = organization ∧ u = user
    | .found t, .cacheRules o u rules ttl =>
      o = organization ∧ u = user ∧ s.ttl? = some ttl ∧ rules = t.rules organization user s.now
    | _, _ => False
  leads
    | .begun, .findMember o u, r, y => ∃ t, y = .found t ∧ t.Answers (.findMember o u) r
    | .found _, .cacheRules .., _, y => y = .kept
    | .found t, c, r, y => y = .found t ∧ t.Answers c r
    | x, _, _, y => y = x

section Inquiry

variable {organization : OrganizationId} {user : UserId} {s : Setting} {t : Store}

theorem Store.Answers.eq {c : Call} {r : Outcome c.Reply} {a : c.Reply} {f : Store → c.Reply}
    (h : t.Answers c r) (hserve : ∀ b : Backend, b.serve c = (.ok (f b.store), b))
    (ha : r = .ok a) : a = f t := by
  obtain ⟨b, rfl, rfl⟩ := h
  exact eq_of_answer hserve ha

theorem tells_of_inquiring {c : Call} {f : Store → c.Reply}
    (hc : (inquiring organization user s).allows (.found t) c)
    (hleads : ∀ r y, (inquiring organization user s).leads (.found t) c r y →
      y = .found t ∧ t.Answers c r)
    (hserve : ∀ b : Backend, b.serve c = (.ok (f b.store), b)) :
    (inquiring organization user s).Tells (.found t) c (f t) :=
  ⟨hc, fun r y h => ⟨(hleads r y h).1, fun _ ha => (hleads r y h).2.eq hserve ha⟩⟩

theorem inquiring_informs :
    (inquiring organization user s).Informs (.found t) organization user t where
  role id := tells_of_inquiring (c := .findRole organization id) (f := (·.findRole organization id))
    rfl (fun _ _ h => h) fun _ => rfl
  teams := tells_of_inquiring (c := .listTeams organization user)
    (f := (·.teams organization user)) ⟨rfl, rfl⟩ (fun _ _ h => h) fun _ => rfl
  delegations := tells_of_inquiring (c := .listReceivedDelegations organization user)
    (f := (·.receivedDelegations organization user)) ⟨rfl, rfl⟩ (fun _ _ h => h) fun _ => rfl
  overrides := tells_of_inquiring (c := .listReceivedOverrides organization user)
    (f := (·.receivedOverrides organization user)) ⟨rfl, rfl⟩ (fun _ _ h => h) fun _ => rfl

namespace Authorization

theorem finds_remembered : Finds (inquiring organization user s) .begun
    (remembered s organization user) fun _ => True := by
  rw [remembered]
  cases s.ttl? with
  | none => exact Finds.pure trivial
  | some ttl =>
      have hasked : (inquiring organization user s).Stays .begun
          (.cachedRules organization user) := ⟨⟨rfl, rfl⟩, fun _ _ h => h⟩
      refine (Finds.perform hasked).attempt.bind fun outcome _ => ?_
      cases outcome with
      | ok _ => exact Finds.pure trivial
      | error _ => exact Finds.pure trivial

/-- The sources are those of the store in which the membership was looked up. -/
theorem meets_sources : Meets (inquiring organization user s) .begun (sources organization user)
    fun r y => ∀ g, r = .ok g → ∃ t, y = .found t ∧ g = t.sources organization user := by
  rw [sources_eq_gather]
  refine Meets.bind (Meets.perform (c := Call.findMember organization user)
    (Q := fun r y => ∃ t, y = Inquiry.found t ∧ t.Answers (.findMember organization user) r)
    ⟨rfl, rfl⟩ fun _ _ h => h) ?_ ?_
  · rintro m y ⟨t, rfl, hm⟩
    have hmember : m = t.findMember organization user :=
      hm.eq (f := (·.findMember organization user)) (fun _ => rfl) rfl
    refine Meets.mono (finds_gather inquiring_informs m) ?_
    rintro r y ⟨rfl, hr⟩ g hg
    exact ⟨t, rfl, by rw [hr g hg, Store.sources_eq_gathered, hmember]⟩
  · rintro _ _ _ g ⟨⟩

theorem meets_remember {rules : RuleSet} (h : rules = t.rules organization user s.now) :
    Meets (inquiring organization user s) (.found t) (remember s organization user rules)
      fun _ _ => True := by
  rw [remember]
  cases httl : s.ttl? with
  | none => exact Meets.pure trivial
  | some ttl =>
      refine Meets.bind (Q := fun _ _ => True) (Meets.attempt (Meets.perform ?_ ?_))
        (fun _ _ _ => Meets.pure trivial) fun _ _ _ => trivial
      · exact ⟨rfl, rfl, httl, h⟩
      · exact fun _ _ _ => trivial

/-- What is put into the cache are the rules of the store in which the membership was looked up. -/
theorem meets_ruleSet : Meets (inquiring organization user s) .begun
    (ruleSet s organization (some user)) fun _ _ => True := by
  refine finds_remembered.before (fun kept _ => ?_) fun _ => trivial
  cases kept with
  | some rules => exact Meets.pure trivial
  | none =>
      refine Meets.bind meets_sources (fun g y hg => ?_) fun _ _ _ => trivial
      obtain ⟨t, rfl, rfl⟩ := hg g rfl
      exact Meets.bind (meets_remember rfl) (fun _ _ _ => Meets.pure trivial) fun _ _ _ => trivial

end Authorization

end Inquiry

/-! ## The assignment -/

/-- How far the assignment of a role has come. -/
inductive Assignment where
  | begun
  | assigned
  | forgotten
  | failed
deriving DecidableEq

/-- A call that enters something into the log. -/
def Call.Reports : Call → Prop
  | newId _ | appendEntry _ => True
  | _ => False

/-- It leaves the records and the cache as they are. -/
theorem Call.Reports.keeps {c : Call} (hc : c.Reports) (b : Backend) :
    Keeps b (b.answer c).2 ∧ (b.answer c).2.cache = b.cache := by
  cases c with
  | newId kind => exact ⟨.refl, rfl⟩
  | appendEntry e =>
      exact ⟨b.keeps_appendEntry e, b.cache_appendEntry e⟩
  | _ => exact hc.elim

/-- The role is assigned once, after looking around only, and the user's rules are forgotten once
behind it. -/
def assigning (organization : OrganizationId) (user : UserId) (role : MemberRole) (s : Setting)
    (x : Situation) : Discipline Call Call.Reply Assignment where
  allows
    | .begun, c => c.Looks organization s x ∨ c = .setMemberRole organization user role
    | .assigned, c => c.Reports ∨ c = .forgetUser organization user
    | .forgotten, c => c.Reports
    | .failed, _ => False
  leads
    | .begun, .setMemberRole .., .ok _, z => z = .assigned
    | .begun, .setMemberRole .., .error _, z => z = .failed
    | .begun, c, r, z => z = .begun ∧ x.Answers c r
    | .assigned, .forgetUser .., _, z => z = .forgotten
    | y, _, _, z => z = y

section Assignment

variable {organization : OrganizationId} {user : UserId} {role : MemberRole} {s : Setting}
  {x : Situation}

/-- The user's rules are forgotten where there is a cache. -/
def Assignment.IsDone (z : Assignment) (s : Setting) : Prop :=
  z = .forgotten ∨ z = .assigned ∧ s.cacheTtl = none

theorem Looks.assigning {α : Type} {p : Service α} {F : α → Prop}
    (h : Looks organization s x p F) :
    Finds (assigning organization user role s x) .begun p F := by
  have hmeets := Meets.transfer (E := AccessControl.assigning organization user role s x)
    (I := fun x' z => x' = x ∧ z = .begun) ?_ h ⟨rfl, rfl⟩
  · refine hmeets.mono ?_
    rintro r z ⟨x', ⟨-, hr⟩, -, rfl⟩
    exact ⟨rfl, hr⟩
  · rintro x' z c ⟨rfl, rfl⟩ hlooks
    refine ⟨.inl hlooks, fun r z hz => ?_⟩
    have hleads : z = .begun ∧ x'.Answers c r := by
      cases c <;> first | exact hz | exact hlooks.elim
    exact ⟨x', ⟨rfl, hleads.2⟩, rfl, hleads.1⟩

/-- Behind the assignment the log may be written. -/
theorem stays_of_reports {z : Assignment} {c : Call} (hz : z = .assigned ∨ z = .forgotten)
    (hc : c.Reports) : (assigning organization user role s x).Stays z c := by
  rcases hz with rfl | rfl
  · refine ⟨.inl hc, ?_⟩
    cases c <;> first | exact fun _ _ h => h | exact hc.elim
  · exact ⟨hc, fun _ _ h => h⟩

theorem meets_forgetUser : Meets (assigning organization user role s x) .assigned
    (Authorization.forgetUser s organization user) fun r z => r = .ok () ∧ z.IsDone s := by
  rw [Authorization.forgetUser]
  cases hcache : s.cacheTtl with
  | none => exact ⟨rfl, .inr ⟨rfl, hcache⟩⟩
  | some ttl =>
      refine Meets.bind (Q := fun r z => (∃ a, r = .ok a) ∧ z = .forgotten)
        (Meets.attempt (Meets.perform (.inr rfl) ?_)) ?_ ?_
      · exact fun r z hz => ⟨⟨r, rfl⟩, hz⟩
      · exact fun _ _ hz => Meets.pure ⟨rfl, .inl hz.2⟩
      · rintro e z ⟨⟨_, ⟨⟩⟩, -⟩

theorem Assignment.IsDone.stays {z : Assignment} {c : Call} (h : z.IsDone s) (hc : c.Reports) :
    (assigning organization user role s x).Stays z c := by
  rcases h with rfl | ⟨rfl, -⟩
  · exact stays_of_reports (.inr rfl) hc
  · exact stays_of_reports (.inl rfl) hc

namespace Administration

open Administration

variable {actor : Actor} {id : RoleId}

/-- An assignment that succeeds has forgotten the user's rules. -/
theorem meets_assignRole :
    Meets (assigning actor.organization user (.dynamic id) s x) .begun
      (assignRole s actor user id) fun r z => ∀ m, r = .ok m → z.IsDone s := by
  have herror : ∀ {z : Assignment} (e : Fault),
      ∀ m : Member, (.error e : Outcome Member) = .ok m → z.IsDone s := by
    rintro _ _ _ ⟨⟩
  refine (Looks.assigning (looks_call (c := .findMember actor.organization user) rfl)).before
    (fun _ _ => ?_) herror
  refine (Looks.assigning (Looks.found _ _)).before (fun m _ => ?_) herror
  refine (Looks.assigning (looks_memberResource m user)).before (fun resource _ => ?_) herror
  refine (Looks.assigning (Authorization.looks_require actor .changeRole _)).before
    (fun _ _ => ?_) herror
  refine (Looks.assigning (looks_findRole id)).before (fun role _ => ?_) herror
  refine (Looks.assigning (looks_requirePriority role.priority)).before (fun _ _ => ?_) herror
  refine Meets.bind (Q := fun r z => ∀ m, r = .ok m → z = .assigned)
    (Meets.perform (c := Call.setMemberRole actor.organization user (.dynamic id)) (.inr rfl) ?_)
    ?_ fun e _ _ => herror e
  · rintro (e | m) z hz m' heq
    · cases heq
    · exact hz
  · intro changed z hz
    obtain rfl := hz changed rfl
    refine Meets.bind meets_forgetUser ?_ fun e _ _ => herror e
    rintro _ z ⟨-, hz⟩
    have hrecord : ∀ (now : Instant) (r : AuditRecord),
        Finds (assigning actor.organization user (.dynamic id) s x) z (Audit.record now r)
          fun _ => True := fun now r =>
      Audit.finds_record (hz.stays trivial) fun _ _ => hz.stays trivial
    refine Finds.before (F := fun _ => True) ((hrecord _ _).bind fun _ _ => Finds.pure trivial)
      (fun _ _ => ?_) herror
    exact Meets.pure fun _ _ => hz

end Administration

end Assignment

end AccessControl

import Mathlib.Order.Interval.Set.Basic
import AccessControl.Proofs.Services
import AccessControl.Proofs.Tenants

/-!
# Remembered rules are up to date

Tasks are carried out one after the other, by services that use the cache.  After each of them,
whether it succeeded or not, the rules that are remembered of a user are those that the store gives
at the time at which they were put in (`Dated.Reached.coherent`).

The time is not part of the cache, so states are taken together with it: `Dated.answer` answers a
call as the state does and notes when rules are put in.

A task fills the cache while it checks what it may do, and changes the store only behind that.  The
discipline of `Proofs.Conduct` says whose rules a change puts out of date and that they are
forgotten in the end, so what is left to prove is that a change leaves the rules of everybody else
as they were (`RecordChange.rules_eq`).
-/

namespace AccessControl

open Backend

/-! ## Whose rules a change touches -/

/-- No member and no delegation refers to one of the next `n` roles. -/
structure Backend.UnreferencedAhead (n : Nat) (b : Backend) : Prop where
  member : ∀ i ∈ Set.Ioc (b.used .role) (b.used .role + n), ∀ m ∈ b.store.members.rows,
    m.role.roleId? ≠ some (b.mint .role i)
  delegation : ∀ i ∈ Set.Ioc (b.used .role) (b.used .role + n), ∀ d ∈ b.store.delegations.rows,
    d.role ≠ some (b.mint .role i)

theorem Backend.UnreferencedAhead.mono {b : Backend} {n m : Nat} (h : b.UnreferencedAhead n)
    (hm : m ≤ n) : b.UnreferencedAhead m := by
  have hmore : Set.Ioc (b.used .role) (b.used .role + m) ⊆
      Set.Ioc (b.used .role) (b.used .role + n) :=
    Set.Ioc_subset_Ioc_right (Nat.add_le_add_left hm _)
  exact ⟨fun i hi => h.member i (hmore hi), fun i hi => h.delegation i (hmore hi)⟩

/-- For one role it is enough that nothing refers to the one that comes next. -/
theorem Backend.UnreferencedAhead.one {b : Backend}
    (hmember : ∀ m ∈ b.store.members.rows, m.role.roleId? ≠ some (b.nextId .role))
    (hdelegation : ∀ d ∈ b.store.delegations.rows, d.role ≠ some (b.nextId .role)) :
    b.UnreferencedAhead 1 := by
  have hnext : ∀ i ∈ Set.Ioc (b.used .role) (b.used .role + 1), i = b.used .role + 1 :=
    fun i hi => Nat.le_antisymm hi.2 hi.1
  exact ⟨fun i hi => hnext i hi ▸ hmember, fun i hi => hnext i hi ▸ hdelegation⟩

theorem Backend.UnreferencedAhead.of_keeps {b c : Backend} {n : Nat} (h : b.UnreferencedAhead n)
    (hkeeps : Keeps b c) : c.UnreferencedAhead n := by
  obtain ⟨hstore, hmint, hused, -⟩ := hkeeps
  constructor
  · rw [hstore, hmint, hused .role (by decide)]
    exact h.member
  · rw [hstore, hmint, hused .role (by decide)]
    exact h.delegation

namespace Store

variable {s t : Store} {organization : OrganizationId} {user : UserId}

/-- The sources of a user's rules are the same where the member, the roles that are referred to and
all that was received are. -/
theorem sources_congr (hmember : t.findMember organization user = s.findMember organization user)
    (hrole : ∀ m, s.findMember organization user = some m → ∀ id, m.role.roleId? = some id →
      t.findRole organization id = s.findRole organization id)
    (hshared : ∀ d ∈ s.receivedDelegations organization user, ∀ id, d.role = some id →
      t.findRole organization id = s.findRole organization id)
    (hteams : t.teams organization user = s.teams organization user)
    (hdelegations : t.receivedDelegations organization user =
      s.receivedDelegations organization user)
    (hoverrides : t.receivedOverrides organization user = s.receivedOverrides organization user) :
    t.sources organization user = s.sources organization user := by
  have haccess : (s.receivedDelegations organization user).map (t.access organization) =
      (s.receivedDelegations organization user).map (s.access organization) := by
    refine List.map_congr_left fun d hd => ?_
    rw [access, access]
    refine congrArg _ (Option.bind_congr fun id hid => ?_)
    exact hshared d hd id hid
  rw [sources, sources, hmember]
  cases hfound : s.findMember organization user with
  | none => rfl
  | some m =>
      have hown : m.role.roleId?.bind (t.findRole organization) =
          m.role.roleId?.bind (s.findRole organization) :=
        Option.bind_congr fun id hid => hrole m hfound id hid
      simp only [hown, hteams, hdelegations, hoverrides, haccess]

end Store

namespace Table

variable {κ α : Type} {key : α → κ} [DecidableEq κ] {t : Table key} {a : α} {p : α → Bool}

/-- Rows that are selected are not affected by a row that is not, in the place of one that is
not. -/
theorem rows_put_filter (ha : p a = false) (hold : ∀ b, t.find? (key a) = some b → p b = false) :
    (t.put a).rows.filter p = t.rows.filter p :=
  congrArg Table.rows (filter_put_of_neg ha hold)

end Table

namespace Store

variable {s : Store} {organization : OrganizationId} {user : UserId}

theorem receivedDelegations_putDelegation_of_ne {d : Delegation} (hne : d.delegatee ≠ user)
    (hold : ∀ e, s.delegations.find? d.id = some e → e.delegatee ≠ user) :
    (s.putDelegation d).receivedDelegations organization user =
      s.receivedDelegations organization user :=
  Table.rows_put_filter (by simp [hne]) fun e he => by simp [hold e he]

theorem receivedOverrides_putOverride_of_ne {o : Override} (hne : o.user ≠ user)
    (hold : ∀ p, s.overrides.find? o.id = some p → p.user ≠ user) :
    (s.putOverride o).receivedOverrides organization user =
      s.receivedOverrides organization user :=
  Table.rows_put_filter (by simp [hne]) fun p hp => by simp [hold p hp]

end Store

section Touched

variable {organization : OrganizationId} {b d : Backend} {touched : Set UserId} {k n : Nat}

/-- A change leaves the sources of the users that it does not touch as they were. -/
theorem RecordChange.sources_eq (h : RecordChange organization b touched k d)
    (hfree : b.UnreferencedAhead n) (hn : k ≤ n) {user : UserId} (huser : user ∉ touched) :
    d.store.sources organization user = b.store.sources organization user := by
  cases h with
  | @newRole role _ hid _ =>
      have hnext : b.used .role + 1 ∈ Set.Ioc (b.used .role) (b.used .role + n) :=
        ⟨Nat.lt_succ_self _, Nat.add_le_add_left hn _⟩
      refine Store.sources_congr rfl ?_ ?_ rfl rfl rfl
      · intro m hm id hrole
        have hmem := (Store.findMember_eq_some.mp hm).1
        refine Store.findRole_putRole_of_ne fun heq => hfree.member _ hnext m hmem ?_
        rw [hrole, heq, hid, nextId]
      · intro d hd id hrole
        have hmem := (List.mem_filter.mp hd).1
        refine Store.findRole_putRole_of_ne fun heq => hfree.delegation _ hnext d hmem ?_
        rw [hrole, heq, hid, nextId]
  | roleKept | roleErased => exact absurd (Set.mem_univ user) huser
  | member _ _ hsame _ =>
      refine Store.sources_congr ?_ (fun _ _ _ _ => rfl) (fun _ _ _ _ => rfl) rfl rfl rfl
      refine Store.findMember_putMember_of_ne fun heq => huser ?_
      exact (congrArg Prod.snd heq).trans hsame
  | @newDelegation e _ _ hfree _ =>
      refine Store.sources_congr rfl (fun _ _ _ _ => rfl) (fun _ _ _ _ => rfl) rfl ?_ rfl
      refine Store.receivedDelegations_putDelegation_of_ne (fun heq => huser heq.symm) ?_
      intro e' he'
      rw [hfree] at he'
      cases he'
  | @delegationKept stored e hfound _ hdelegatee _ =>
      refine Store.sources_congr rfl (fun _ _ _ _ => rfl) (fun _ _ _ _ => rfl) rfl ?_ rfl
      refine Store.receivedDelegations_putDelegation_of_ne (fun heq => huser heq.symm) ?_
      intro e' he' heq
      have hstored := (Option.filter_eq_some_iff.mp hfound).1
      obtain rfl : e' = stored := Option.some.inj (he'.symm.trans hstored)
      exact huser (heq.symm.trans hdelegatee.symm)
  | @newOverride o _ _ hfree =>
      refine Store.sources_congr rfl (fun _ _ _ _ => rfl) (fun _ _ _ _ => rfl) rfl rfl ?_
      refine Store.receivedOverrides_putOverride_of_ne (fun heq => huser heq.symm) ?_
      intro p hp
      rw [hfree] at hp
      cases hp
  | @overrideKept stored o hfound _ hsame =>
      refine Store.sources_congr rfl (fun _ _ _ _ => rfl) (fun _ _ _ _ => rfl) rfl rfl ?_
      refine Store.receivedOverrides_putOverride_of_ne (fun heq => huser heq.symm) ?_
      intro p hp heq
      have hstored := (Option.filter_eq_some_iff.mp hfound).1
      obtain rfl : p = stored := Option.some.inj (hp.symm.trans hstored)
      exact huser (heq.symm.trans hsame.symm)

/-- A change leaves the rules of users of other organizations, and of those that it does not touch,
as they were. -/
theorem RecordChange.rules_eq (h : RecordChange organization b touched k d)
    (hfresh : b.FreshAhead n) (hfree : b.UnreferencedAhead n) (hn : k ≤ n)
    {other : OrganizationId} {user : UserId} (hother : ¬(other = organization ∧ user ∈ touched))
    (now : Instant) : d.store.rules other user now = b.store.rules other user now := by
  by_cases hne : other = organization
  · subst hne
    have huser : user ∉ touched := fun hmem => hother ⟨rfl, hmem⟩
    rw [Store.rules, Store.rules, h.sources_eq hfree hn huser]
  · exact (h.agree_of_ne hfresh hn hne).rules user now

/-- New records refer to roles that are there, so the roles to come stay without reference. -/
theorem RecordChange.unreferencedAhead (h : RecordChange organization b touched k d)
    (hfresh : b.FreshAhead n) (hfree : b.UnreferencedAhead n) (hn : k ≤ n) :
    d.UnreferencedAhead (n - k) := by
  have hless := hfree.mono (Nat.sub_le n k)
  have hfound : ∀ i ∈ Set.Ioc (b.used .role) (b.used .role + n), ∀ id,
      (b.store.findRole organization id).isSome = true → id ≠ b.mint .role i := by
    rintro i hi id hsome rfl
    obtain ⟨role, hrole⟩ := Option.isSome_iff_exists.mp hsome
    have hstored := Store.isSome_of_findRole hrole
    rw [hfresh.role i hi] at hstored
    cases hstored
  cases h with
  | newRole =>
      have hbehind : Set.Ioc (b.used .role + 1) (b.used .role + 1 + (n - 1)) ⊆
          Set.Ioc (b.used .role) (b.used .role + n) :=
        Set.Ioc_subset_Ioc (Nat.le_succ _) (by omega)
      exact ⟨fun i hi => hfree.member i (hbehind hi), fun i hi => hfree.delegation i (hbehind hi)⟩
  | member _ _ _ hrole =>
      refine ⟨fun i hi m hm => ?_, hfree.delegation⟩
      rcases Table.mem_put.mp hm with rfl | ⟨hold, -⟩
      · exact fun hid => hfound i hi _ (hrole _ hid) rfl
      · exact hfree.member i hi m hold
  | newDelegation _ _ _ hrole =>
      refine ⟨hless.member, fun i hi e he => ?_⟩
      rcases Table.mem_put.mp he with rfl | ⟨hold, -⟩
      · have hall := Set.Ioc_subset_Ioc_right (Nat.add_le_add_left (Nat.sub_le n 1) _) hi
        exact fun hid => hfound i hall _ (hrole _ hid) rfl
      · exact hless.delegation i hi e hold
  | delegationKept hstored _ _ hsame =>
      refine ⟨hfree.member, fun i hi e he => ?_⟩
      rcases Table.mem_put.mp he with rfl | ⟨hold, -⟩
      · rw [hsame]
        exact hfree.delegation i hi _ (Store.findDelegation_eq_some.mp hstored).1
      · exact hfree.delegation i hi e hold
  | newOverride => exact ⟨hless.member, hless.delegation⟩
  | _ => exact ⟨hfree.member, hfree.delegation⟩

end Touched

/-! ## When rules were put in -/

/-- The times at which the rules of users were put into the cache. -/
abbrev CacheDates := OrganizationId → UserId → Instant

/-- The dates behind a call that was answered at the time. -/
def Call.dates (now : Instant) (dates : CacheDates) : (c : Call) → Outcome c.Reply → CacheDates
  | cacheRules organization user _ ttl, .ok _ => fun organization' user' =>
    if ttl ≠ 0 ∧ organization' = organization ∧ user' = user then now
    else dates organization' user'
  | _, _ => dates

/-- A state together with the dates of its cache. -/
structure Dated where
  state : Backend
  dates : CacheDates

namespace Dated

/-- A call is answered as the state answers it. -/
def answer (now : Instant) (c : Call) (b : Dated) : Outcome c.Reply × Dated :=
  ((b.state.answer c).1, ⟨(b.state.answer c).2, c.dates now b.dates (b.state.answer c).1⟩)

/-- The state after a task, whether it succeeded or not. -/
def after (s : Setting) (task : Task) (b : Dated) : Dated :=
  ((task.perform s).run (answer s.now) b).2

/-- The dates are only looked on: nothing is answered or stored otherwise for them. -/
theorem run_state {α : Type} (now : Instant) (p : Service α) (b : Dated) :
    (p.run (answer now) b).1 = (b.state.run p).1 ∧
      (p.run (answer now) b).2.state = (b.state.run p).2 := by
  induction p generalizing b with
  | done r => exact ⟨rfl, rfl⟩
  | call c next ih => exact ih _ (answer now c b).2

theorem state_after (s : Setting) (task : Task) (b : Dated) :
    (b.after s task).state = (b.state.run (task.perform s)).2 :=
  (run_state s.now (task.perform s) b).2

/-- Every rule set that is remembered is the one that the store gives, at the time at which it was
put in. -/
def Coherent (b : Dated) : Prop :=
  ∀ organization user rules, b.state.cache.get organization user = some rules →
    rules = resolve (some user) organization (b.state.store.sources organization user)
      (b.dates organization user)

end Dated

/-! ## What one call does to the cache -/

section Calls

variable {organization other : OrganizationId} {user : UserId} {rules : RuleSet} {s : Setting}
  {x : Situation} {b : Backend} {c : Call} {now : Instant} {dates : CacheDates}

theorem Call.dates_error (c : Call) (fault : Fault) : c.dates now dates (.error fault) = dates := by
  cases c <;> rfl

theorem Call.Forgets.dates_eq (hc : c.Forgets organization) (r : Outcome c.Reply) :
    c.dates now dates r = dates := by
  cases c <;> first | rfl | exact hc.elim

theorem Call.Changes.dates_eq (hc : c.Changes organization x) (r : Outcome c.Reply) :
    c.dates now dates r = dates := by
  cases c <;> first | rfl | exact hc.elim

/-- What is remembered behind a look around was just put in as the store gives it, or was remembered
before. -/
theorem Call.Looks.remembered (hc : c.Looks organization s b.situation) (dates : CacheDates)
    (h : (b.answer c).2.cache.get other user = some rules) :
    c.dates s.now dates (b.answer c).1 other user = s.now ∧
        rules = b.store.rules other user s.now ∨
      c.dates s.now dates (b.answer c).1 other user = dates other user ∧
        b.cache.get other user = some rules := by
  rw [Backend.answer] at h ⊢
  cases hout : b.outage? c with
  | some fault =>
      rw [hout] at h
      exact .inr ⟨congrFun (congrFun (c.dates_error fault) other) user, h⟩
  | none =>
      rw [hout] at h
      cases c with
      | cacheRules o u kept ttl =>
          obtain ⟨rfl, hkept⟩ := hc
          simp only [serve, RuleCache.get_set, Call.dates] at h ⊢
          by_cases hkey : ttl ≠ 0 ∧ other = o ∧ user = u
          · rw [if_pos hkey] at h ⊢
            refine .inl ⟨rfl, ?_⟩
            rw [← Option.some.inj h, hkey.2.1, hkey.2.2]
            exact hkept
          · rw [if_neg hkey] at h ⊢
            exact .inr ⟨rfl, h⟩
      | appendEntry e =>
          have hcache := b.cache_appendEntry e
          rw [Backend.answer, hout] at hcache
          exact .inr ⟨rfl, hcache ▸ h⟩
      | _ => first | exact .inr ⟨rfl, h⟩ | exact hc.elim

/-- What is remembered after rules were forgotten is not among them. -/
theorem Call.Forgets.remembered (hc : c.Forgets organization) (hworks : b.outage? c = none)
    (h : (b.answer c).2.cache.get other user = some rules) :
    ¬(other = organization ∧ user ∈ c.forgotten) ∧ b.cache.get other user = some rules := by
  rw [Backend.answer, hworks] at h
  cases c with
  | forgetUser o u =>
      obtain rfl : o = organization := hc
      simp only [serve, RuleCache.get_forgetUser] at h
      split at h
      · cases h
      · rename_i hkey
        exact ⟨hkey, h⟩
  | forgetOrganization o =>
      obtain rfl : o = organization := hc
      simp only [serve, RuleCache.get_forgetOrganization] at h
      split at h
      · cases h
      · rename_i hne
        exact ⟨fun hkey => hne hkey.1, h⟩
  | _ => exact hc.elim

end Calls

/-! ## Tasks -/

/-- Rules can be forgotten: the calls for that are in order. -/
def Backend.Forgetful (b : Backend) : Prop :=
  ∀ (organization : OrganizationId) (c : Call), c.Forgets organization → b.outage? c = none

namespace Dated

/-- What holds of the state while a task is carried out for the organization. -/
structure Underway (organization : OrganizationId) (z : Standing) (b : Dated) : Prop where
  situation : b.state.situation = z.situation
  fresh : b.state.FreshAhead z.spare
  unreferenced : b.state.UnreferencedAhead z.spare
  forgetful : b.state.Forgetful
  current : ∀ other user rules, ¬(other = organization ∧ user ∈ z.stale) →
    b.state.cache.get other user = some rules →
    rules = b.state.store.rules other user (b.dates other user)

section Step

variable {organization : OrganizationId} {s : Setting} {z : Standing} {b : Dated} {c : Call}

/-- Where the next call leads. -/
def next (s : Setting) (z : Standing) (c : Call) (b : Dated) : Standing :=
  ⟨(b.state.answer c).2.situation,
    (z.stale ∪ c.outdated s (b.state.answer c).1) \ c.forgotten, z.spare - c.created⟩

theorem Underway.of_keeps (h : Underway organization z b)
    (hkeeps : Keeps b.state (b.state.answer c).2)
    (hcurrent : ∀ other user rules, ¬(other = organization ∧ user ∈ (next s z c b).stale) →
      (b.state.answer c).2.cache.get other user = some rules →
      rules = b.state.store.rules other user
        (c.dates s.now b.dates (b.state.answer c).1 other user)) :
    Underway organization (next s z c b) (answer s.now c b).2 where
  situation := rfl
  fresh := (h.fresh.of_keeps hkeeps).mono (Nat.sub_le _ _)
  unreferenced := (h.unreferenced.of_keeps hkeeps).mono (Nat.sub_le _ _)
  forgetful organization c' hc' := (hkeeps.outage? c').trans (h.forgetful organization c' hc')
  current other user rules hother hget := by
    have hstore : (answer s.now c b).2.state.store = b.state.store := hkeeps.store
    rw [hstore]
    exact hcurrent other user rules hother hget

theorem Underway.looks (h : Underway organization z b) (hstale : z.stale = ∅)
    (hc : c.Looks organization s z.situation) :
    Underway organization (next s z c b) (answer s.now c b).2 := by
  rw [← h.situation] at hc
  refine h.of_keeps (hc.keeps b.state) ?_
  intro other user rules _ hget
  rcases hc.remembered b.dates hget with ⟨hdate, hrules⟩ | ⟨hdate, hkept⟩
  · rw [hdate, hrules]
  · rw [hdate]
    refine h.current other user rules ?_ hkept
    rw [hstale]
    exact fun hmem => hmem.2

theorem Underway.forgets (h : Underway organization z b) (hc : c.Forgets organization) :
    Underway organization (next s z c b) (answer s.now c b).2 := by
  refine h.of_keeps (hc.keeps b.state) ?_
  intro other user rules hother hget
  obtain ⟨hforgotten, hkept⟩ := hc.remembered (h.forgetful organization c hc) hget
  rw [hc.dates_eq]
  refine h.current other user rules (fun hstale => hother ⟨hstale.1, ?_⟩) hkept
  exact ⟨.inl hstale.2, fun hmem => hforgotten ⟨hstale.1, hmem⟩⟩

/-- A change puts out of date what is remembered of the users that it touches. -/
theorem Underway.changes (h : Underway organization z b) (hcache : s.cacheTtl.isSome = true)
    (hstale : z.stale = ∅) (hc : c.Changes organization z.situation) (hn : c.created ≤ z.spare) :
    Underway organization (next s z c b) (answer s.now c b).2 := by
  rw [← h.situation] at hc
  rcases hc.answer_cases with ⟨fault, hrun⟩ | ⟨r, d, hrun, hchange⟩
  · refine h.of_keeps (by rw [hrun]) ?_
    intro other user rules _ hget
    rw [hrun] at hget
    rw [hc.dates_eq]
    refine h.current other user rules ?_ hget
    rw [hstale]
    exact fun hmem => hmem.2
  · have hstate : (answer s.now c b).2.state = d := congrArg Prod.snd hrun
    have hdates : (answer s.now c b).2.dates = b.dates := hc.dates_eq _
    have htouched : (next s z c b).stale = c.touched := by
      rw [next, hrun, hstale, hc.forgotten_eq, Call.outdated, if_pos hcache]
      simp
    obtain ⟨-, hkept, hbroken⟩ := hchange.rest
    exact
      { situation := rfl
        fresh := hstate ▸ hchange.freshAhead h.fresh hn
        unreferenced := hstate ▸ hchange.unreferencedAhead h.fresh h.unreferenced hn
        forgetful := fun organization c' hc' => by
          rw [hstate, ← h.forgetful organization c' hc', Backend.outage?, Backend.outage?, hbroken]
        current := by
          intro other user rules hother hget
          rw [htouched] at hother
          rw [hstate] at hget ⊢
          rw [hkept] at hget
          rw [hdates, hchange.rules_eq h.fresh h.unreferenced hn hother]
          refine h.current other user rules ?_ hget
          rw [hstale]
          exact fun hmem => hmem.2 }

theorem Underway.step (h : Underway organization z b) (hcache : s.cacheTtl.isSome = true)
    (hc : (conduct organization s).allows z c) :
    Underway organization (next s z c b) (answer s.now c b).2 := by
  rcases hc with hforgets | ⟨hstale, hlooks | ⟨hchanges, hn⟩⟩
  · exact h.forgets hforgets
  · exact h.looks hstale hlooks
  · exact h.changes hcache hstale hchanges hn

end Step

variable {s : Setting} {task : Task} {b c : Dated}

/-- A task leaves the cache coherent, whether it succeeds or not. -/
theorem Coherent.after (h : b.Coherent) (hcache : s.cacheTtl.isSome = true)
    (hforgetful : b.state.Forgetful) (hfresh : b.state.FreshAhead task.creations)
    (hfree : b.state.UnreferencedAhead task.creations) : (b.after s task).Coherent := by
  have hbegin : Underway task.organization ⟨b.state.situation, ∅, task.creations⟩ b :=
    ⟨rfl, hfresh, hfree, hforgetful, fun other user rules _ hget => h other user rules hget⟩
  have hrun := Program.Meets.run (answer s.now) (I := Underway task.organization) ?_
    (task.behaves (s := s)) hbegin
  · obtain ⟨z, hstale, hend⟩ := hrun
    refine fun other user rules hget => hend.current other user rules ?_ hget
    rw [hstale]
    exact fun hmem => hmem.2
  · intro z d c hd hc
    exact ⟨next s z c d, ⟨⟨d.state, hd.situation, rfl, rfl⟩, rfl, rfl⟩, hd.step hcache hc⟩

/-- The states that are reached by tasks, each of them carried out to its end before the next one,
at any time and by services that use the cache.  The identifiers that it needs are fresh.  Between
two tasks remembered rules may expire, and everything but the store and the dates may become
different. -/
inductive Reached : Dated → Dated → Prop
  | refl (b : Dated) : Reached b b
  | task {b c : Dated} (s : Setting) (task : Task) (h : Reached b c)
      (hcache : s.cacheTtl.isSome = true) (hforgetful : c.state.Forgetful)
      (hfresh : c.state.FreshAhead task.creations)
      (hfree : c.state.UnreferencedAhead task.creations) : Reached b (c.after s task)
  | drift {b c d : Dated} (h : Reached b c) (hstore : d.state.store = c.state.store)
      (hdates : d.dates = c.dates)
      (hexpired : ∀ organization user rules, d.state.cache.get organization user = some rules →
        c.state.cache.get organization user = some rules) : Reached b d

/-- From an empty cache on, every rule set that is remembered is the one that the store gives, at
the time at which it was put in. -/
theorem Reached.coherent (h : Reached b c) (hbegin : b.state.cache = {}) : c.Coherent := by
  induction h with
  | refl =>
      intro organization user rules hget
      rw [hbegin] at hget
      cases hget
  | task s task _ hcache hforgetful hfresh hfree ih =>
      exact ih.after hcache hforgetful hfresh hfree
  | drift _ hstore hdates hexpired ih =>
      intro organization user rules hget
      rw [hstore, hdates]
      exact ih organization user rules (hexpired organization user rules hget)

end Dated

namespace Sample

/-- A check of what is needed for a task that creates at most one record. -/
def isReady (b : Backend) : Bool :=
  b.broken = [] && (b.store.roles.find? (b.nextId .role)).isNone &&
    (b.store.delegations.find? (b.nextId .delegation)).isNone &&
    (b.store.overrides.find? (b.nextId .override)).isNone &&
    (b.store.members.rows.all fun m => m.role.roleId? ≠ some (b.nextId .role)) &&
    b.store.delegations.rows.all fun d => d.role ≠ some (b.nextId .role)

theorem reached_after {b c : Dated} (h : Dated.Reached b c) {s : Setting} {task : Task}
    (hcache : s.cacheTtl.isSome = true) (hone : task.creations ≤ 1)
    (hready : isReady c.state = true) : Dated.Reached b (c.after s task) := by
  simp only [isReady, Bool.and_eq_true, decide_eq_true_eq, Option.isNone_iff_eq_none,
    List.all_eq_true] at hready
  obtain ⟨⟨⟨⟨⟨hworking, hrole⟩, hdelegation⟩, hoverride⟩, hmembers⟩, hdelegations⟩ := hready
  have hforgetful : c.state.Forgetful := by
    intro _ call _
    simp [Backend.outage?, hworking]
  have hfresh := FreshAhead.one hrole hdelegation hoverride
  have hfree := UnreferencedAhead.one hmembers hdelegations
  exact .task s task h hcache hforgetful (hfresh.mono hone) (hfree.mono hone)

/-- Before the first task. -/
def morning : Dated where
  state := { backend with used := fun _ => 10 }
  dates _ _ := ⟨0⟩

def caching (now : Instant) : Setting := { now, cacheTtl := some 300 }

def asking : Task := .authorization organization (.ruleSet (some viewer))

def promoting : Task := .administration (actor admin) (.assignRole viewer (roleId .member))

/-- The viewer's rules are asked for, the administrator makes a member of the viewer, and the rules
are asked for again. -/
def evening : Dated :=
  ((morning.after (caching ⟨1⟩) asking).after (caching ⟨2⟩) promoting).after (caching ⟨3⟩) asking

/-- What the three tasks make of a state. -/
def throughTheDay (b : Backend) : Backend :=
  let asked := (b.run (asking.perform (caching ⟨1⟩))).2
  let promoted := (asked.run (promoting.perform (caching ⟨2⟩))).2
  (promoted.run (asking.perform (caching ⟨3⟩))).2

end Sample

open Sample in
/-- In the evening the rules of the new role are remembered, as they were when the viewer asked
again. -/
theorem viewer_rules_of_evening :
    Dated.Reached morning evening ∧ evening.state = throughTheDay morning.state ∧
      (evening.state.store.findMember organization viewer).map (·.role) =
        some (.dynamic (roleId .member)) ∧
      evening.state.cache.get organization viewer = some (resolve (some viewer) organization
        (evening.state.store.sources organization viewer) ⟨3⟩) := by
  have hreached : Dated.Reached morning evening :=
    reached_after (reached_after (reached_after (.refl morning) rfl (by decide)
      (by decide +kernel)) rfl (by decide) (by decide +kernel)) rfl (by decide) (by decide +kernel)
  have hmember : (evening.state.store.findMember organization viewer).map (·.role) =
      some (.dynamic (roleId .member)) := by decide +kernel
  have hkept : (evening.state.cache.get organization viewer).isSome = true := by decide +kernel
  have hdate : evening.dates organization viewer = ⟨3⟩ := by decide +kernel
  obtain ⟨rules, hrules⟩ := Option.isSome_iff_exists.mp hkept
  have hstate : evening.state = throughTheDay morning.state := by
    simp only [evening, Dated.state_after, throughTheDay]
  refine ⟨hreached, hstate, hmember, ?_⟩
  rw [hrules, hreached.coherent rfl organization viewer rules hrules, hdate]

end AccessControl

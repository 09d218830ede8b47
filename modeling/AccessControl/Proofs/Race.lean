import AccessControl.Proofs.Inquiry
import AccessControl.Proofs.Interleaving
import AccessControl.Proofs.Selection
import AccessControl.Proofs.SharedCache

/-!
# A question for rules beside a change of role

While one service makes the rules of a member, another one can give the member a new role.  Behind
the assignment the remembered rules are forgotten, but a service that has looked up the membership
before it does not notice, and puts its rules into the cache whenever it gets there.

So the two can cross: the membership is looked up before the assignment, and the rules are put in
behind the forgetting.  Then the old rules stay remembered until they expire.  Behind all other
orders of calls the rules of the new role are found (`Race.settles`), and it does not matter whether
the cache is in memory or on a server.
-/

namespace AccessControl

open Service Backend Program

/-! ## Beside each other -/

/-- The calls on which it depends what is remembered in the end. -/
inductive Moment where
  | lookedUp
  | assigned
  | forgotten
  | kept
deriving DecidableEq, Repr

/-- The question is on the left and the assignment on the right. -/
def Moment.of? : Side × Call → Option Moment
  | (.left, .findMember ..) => some .lookedUp
  | (.right, .setMemberRole ..) => some .assigned
  | (.right, .forgetUser ..) => some .forgotten
  | (.left, .cacheRules ..) => some .kept
  | _ => none

/-- The membership was looked up before the role was assigned. -/
def LookedUpEarly (ms : List Moment) : Prop := [Moment.lookedUp, .assigned].Sublist ms

/-- Rules were put into the cache after the user's rules were forgotten. -/
def KeptLate (ms : List Moment) : Prop := [Moment.forgotten, .kept].Sublist ms

/-- What was made of the old role was put in behind the forgetting. -/
def Crossed (ms : List Moment) : Prop := LookedUpEarly ms ∧ KeptLate ms

instance (ms : List Moment) : Decidable (LookedUpEarly ms) :=
  inferInstanceAs (Decidable (List.Sublist _ _))

instance (ms : List Moment) : Decidable (Crossed ms) :=
  inferInstanceAs (Decidable (List.Sublist _ _ ∧ List.Sublist _ _))

def moments (made : List (Side × Call)) : List Moment := made.filterMap Moment.of?

section Moments

variable {made : List (Side × Call)} {e : Side × Call} {ms : List Moment} {m : Moment}

theorem moments_concat_of_some (h : Moment.of? e = some m) :
    moments (made ++ [e]) = moments made ++ [m] := by
  simp [moments, h]

theorem moments_concat_of_none (h : Moment.of? e = none) :
    moments (made ++ [e]) = moments made := by
  simp [moments, h]

theorem pair_sublist_concat {α : Type} {a b c : α} {l : List α} :
    [a, b].Sublist (l ++ [c]) ↔ [a, b].Sublist l ∨ b = c ∧ a ∈ l := by
  constructor
  · intro h
    obtain ⟨l₁, l₂, heq, hl, hc⟩ := List.sublist_append_iff.mp h
    rcases List.sublist_singleton.mp hc with rfl | rfl
    · rw [List.append_nil] at heq
      exact .inl (heq ▸ hl)
    · obtain ⟨rfl, hb⟩ : [a] = l₁ ∧ [b] = [c] := List.append_inj' heq rfl
      exact .inr ⟨(List.cons.inj hb).1, List.singleton_sublist.mp hl⟩
  · rintro (h | ⟨rfl, h⟩)
    · exact h.trans (List.sublist_append_left l [c])
    · exact (List.singleton_sublist.mpr h).append (.refl [b])

theorem lookedUpEarly_concat :
    LookedUpEarly (ms ++ [m]) ↔ LookedUpEarly ms ∨ .assigned = m ∧ .lookedUp ∈ ms :=
  pair_sublist_concat

theorem keptLate_concat : KeptLate (ms ++ [m]) ↔ KeptLate ms ∨ .kept = m ∧ .forgotten ∈ ms :=
  pair_sublist_concat

theorem LookedUpEarly.mem (h : LookedUpEarly ms) : .lookedUp ∈ ms :=
  h.subset (List.mem_cons_self ..)

theorem KeptLate.mem (h : KeptLate ms) : .forgotten ∈ ms := h.subset (List.mem_cons_self ..)

end Moments

/-- A question for the rules of a member beside the assignment of a role to the same member. -/
structure Race where
  asks : Setting
  assigns : Setting
  actor : Actor
  user : UserId
  role : RoleId

namespace Race

def organization (race : Race) : OrganizationId := race.actor.organization

/-- The member's rules as a store gives them at the time of the question. -/
def rules (race : Race) (t : Store) : RuleSet :=
  t.rules race.organization race.user race.asks.now

def assign (race : Race) (t : Store) : Outcome (Member × Store) :=
  t.setMemberRole race.organization race.user (.dynamic race.role)

/-- What holds while both are on their way, where the assignment began in the situation `x`. -/
structure Underway (race : Race) (x : Situation) (y : Inquiry) (z : Assignment) (b : Backend)
    (ms : List Moment) : Prop where
  working : b.broken = []
  unchanged : z = .begun ∨ z = .failed → b.situation = x
  changed : z = .assigned ∨ z = .forgotten → ∃ m, race.assign x.store = .ok (m, b.store)
  lookedUp : .lookedUp ∈ ms ↔ y ≠ .begun
  forgotten : .forgotten ∈ ms ↔ z = .forgotten
  -- Before the assignment there is one store only; behind it, two it could have been.
  seen : ∀ t, y = .found t →
    t = if z = .begun ∨ z = .failed ∨ LookedUpEarly ms then x.store else b.store
  crossed : z = .forgotten → Crossed ms → race.asks.ttl?.isSome = true ∧
    b.cache.get race.organization race.user = some (race.rules x.store)
  current : z = .forgotten → ¬Crossed ms →
    ∀ rules, b.cache.get race.organization race.user = some rules → rules = race.rules b.store

section Steps

variable {race : Race} {x : Situation} {y : Inquiry} {z : Assignment} {b d : Backend}
  {ms : List Moment} {t : Store}

/-- A call that leaves the records and the cache as they are. -/
theorem Underway.of_keeps (h : race.Underway x y z b ms) (hkeeps : Keeps b d)
    (hcache : z = .forgotten → d.cache = b.cache) : race.Underway x y z d ms where
  working := hkeeps.broken.trans h.working
  unchanged hz := hkeeps.situation.trans (h.unchanged hz)
  changed hz := by
    rw [hkeeps.store]
    exact h.changed hz
  lookedUp := h.lookedUp
  forgotten := h.forgotten
  seen := by
    rw [hkeeps.store]
    exact h.seen
  crossed hz := by
    rw [hcache hz]
    exact h.crossed hz
  current hz := by
    rw [hcache hz, hkeeps.store]
    exact h.current hz

theorem Underway.look (h : race.Underway x .begun z b ms) :
    race.Underway x (.found b.store) z b (ms ++ [.lookedUp]) := by
  have hearly : ¬LookedUpEarly (ms ++ [.lookedUp]) := by
    rw [lookedUpEarly_concat]
    rintro (hearly | ⟨⟨⟩, -⟩)
    exact h.lookedUp.mp hearly.mem rfl
  exact
    { working := h.working
      unchanged := h.unchanged
      changed := h.changed
      lookedUp := by simp
      forgotten := by simpa using h.forgotten
      seen := by
        rintro t ⟨rfl⟩
        split
        · rename_i hz
          exact congrArg Situation.store (h.unchanged (or_assoc.mpr hz |>.resolve_right hearly))
        · rfl
      crossed := fun _ hcrossed => (hearly hcrossed.1).elim
      current := fun hz _ => h.current hz fun hcrossed =>
        h.lookedUp.mp hcrossed.1.mem rfl }

/-- What is put in behind the forgetting is old if the membership was looked up early. -/
theorem Underway.keep {ttl : Nat} (h : race.Underway x (.found t) z b ms)
    (httl : race.asks.ttl? = some ttl) :
    race.Underway x .kept z
      { b with cache := b.cache.set race.organization race.user (race.rules t) ttl }
      (ms ++ [.kept]) := by
  have hlooked : .lookedUp ∈ ms := h.lookedUp.mpr (by simp)
  have hearly : LookedUpEarly (ms ++ [.kept]) ↔ LookedUpEarly ms := by
    simp [lookedUpEarly_concat]
  have hlate : z = .forgotten → KeptLate (ms ++ [.kept]) := fun hz =>
    keptLate_concat.mpr (.inr ⟨rfl, h.forgotten.mpr hz⟩)
  have hkept : (b.cache.set race.organization race.user (race.rules t) ttl).get
      race.organization race.user = some (race.rules t) :=
    RuleCache.get_set_self (ttl?_pos httl) ..
  have hseen : z = .forgotten → t = if LookedUpEarly ms then x.store else b.store := by
    rintro rfl
    simpa using h.seen t rfl
  exact
    { working := h.working
      unchanged := h.unchanged
      changed := h.changed
      lookedUp := by simp [hlooked]
      forgotten := by simpa using h.forgotten
      seen := fun t ht => nomatch ht
      crossed := by
        intro hz hcrossed
        refine ⟨by rw [httl]; rfl, ?_⟩
        rw [hkept, hseen hz, if_pos (hearly.mp hcrossed.1)]
      current := by
        intro hz hcrossed rules hget
        have hnot : ¬LookedUpEarly ms := fun hold => hcrossed ⟨hearly.mpr hold, hlate hz⟩
        rw [hkept, hseen hz, if_neg hnot] at hget
        exact (Option.some.inj hget).symm }

/-- Once the role is assigned, a membership that was looked up is old. -/
theorem Underway.assign {m : Member} {store : Store} (h : race.Underway x y .begun b ms)
    (hassign : race.assign x.store = .ok (m, store)) :
    race.Underway x y .assigned { b with store } (ms ++ [.assigned]) where
  working := h.working
  unchanged hz := by simp at hz
  changed _ := ⟨m, hassign⟩
  lookedUp := by simpa using h.lookedUp
  forgotten := by simpa using h.forgotten
  seen := by
    rintro t rfl
    have hearly : LookedUpEarly (ms ++ [.assigned]) :=
      lookedUpEarly_concat.mpr (.inr ⟨rfl, h.lookedUp.mpr (by simp)⟩)
    rw [if_pos (.inr (.inr hearly))]
    simpa using h.seen t rfl
  crossed hz := nomatch hz
  current hz := nomatch hz

theorem Underway.fail (h : race.Underway x y .begun b ms) :
    race.Underway x y .failed b (ms ++ [.assigned]) where
  working := h.working
  unchanged _ := h.unchanged (.inl rfl)
  changed hz := by simp at hz
  lookedUp := by simpa using h.lookedUp
  forgotten := by simpa using h.forgotten
  seen := by simpa using h.seen
  crossed hz := nomatch hz
  current hz := nomatch hz

theorem Underway.forget (h : race.Underway x y .assigned b ms) :
    race.Underway x y .forgotten
      { b with cache := b.cache.forgetUser race.organization race.user } (ms ++ [.forgotten]) := by
  have hlate : ¬KeptLate (ms ++ [.forgotten]) := by
    rw [keptLate_concat]
    rintro (hlate | ⟨⟨⟩, -⟩)
    cases h.forgotten.mp hlate.mem
  have hempty : (b.cache.forgetUser race.organization race.user).get race.organization race.user =
      none := by simp [RuleCache.get_forgetUser]
  exact
    { working := h.working
      unchanged := fun hz => by simp at hz
      changed := fun _ => h.changed (.inl rfl)
      lookedUp := by simpa using h.lookedUp
      forgotten := by simp
      seen := by simpa [lookedUpEarly_concat] using h.seen
      crossed := fun _ hcrossed => (hlate hcrossed.2).elim
      current := by
        intro _ _ rules hget
        rw [hempty] at hget
        cases hget }

/-! ### The calls -/

variable {made : List (Side × Call)} {c : Call}

theorem Underway.answer_eq (h : race.Underway x y z b ms) (c : Call) : b.answer c = b.serve c :=
  Authorization.run_ask_of_working h.working c

/-- The store in which the membership was looked up holds the same records besides. -/
theorem Underway.beside (h : race.Underway x (.found t) z b ms) :
    ∃ members, t = { b.store with members } := by
  have hx : ∃ members, x.store = { b.store with members } := by
    by_cases hz : z = .begun ∨ z = .failed
    · exact ⟨_, (congrArg Situation.store (h.unchanged hz)).symm⟩
    · obtain ⟨m, hm⟩ := h.changed (by cases z <;> simp_all)
      obtain ⟨stored, -, -, hstore⟩ := Store.setMemberRole_eq_ok.mp hm
      exact ⟨x.store.members, by rw [hstore]; rfl⟩
  rw [h.seen t rfl]
  split
  · exact hx
  · exact ⟨b.store.members, rfl⟩

theorem Underway.answers (h : race.Underway x (.found t) z b ms)
    (hc : ∀ members, (serve c { b with store := { b.store with members } }).1 = (b.serve c).1) :
    t.Answers c (b.answer c).1 := by
  obtain ⟨members, rfl⟩ := h.beside
  refine ⟨{ b with store := { b.store with members } }, rfl, ?_⟩
  have hanswer := Authorization.run_ask_of_working
    (b := { b with store := { b.store with members } }) h.working c
  rw [h.answer_eq, ← hc members]
  exact congrArg Prod.fst hanswer

/-- A call of the question is answered as it counts on. -/
theorem Underway.left (h : race.Underway x y z b (moments made))
    (hc : (inquiring race.organization race.user race.asks).allows y c) :
    ∃ y', (inquiring race.organization race.user race.asks).leads y c (b.answer c).1 y' ∧
      race.Underway x y' z (b.answer c).2 (moments (made ++ [(.left, c)])) := by
  have hquiet : Moment.of? (.left, c) = none → (b.answer c).2 = b →
      race.Underway x y z (b.answer c).2 (moments (made ++ [(.left, c)])) := by
    intro hmoment hsame
    rwa [moments_concat_of_none hmoment, hsame]
  cases y with
  | begun =>
      cases c with
      | cachedRules o u =>
          exact ⟨.begun, rfl, hquiet rfl (by rw [h.answer_eq]; rfl)⟩
      | findMember o u =>
          refine ⟨.found b.store, ⟨b.store, rfl, b, rfl, rfl⟩, ?_⟩
          rw [h.answer_eq, moments_concat_of_some rfl]
          exact h.look
      | _ => exact hc.elim
  | found t =>
      cases c with
      | cacheRules o u rules ttl =>
          obtain ⟨rfl, rfl, httl, rfl⟩ := hc
          refine ⟨.kept, rfl, ?_⟩
          rw [h.answer_eq, moments_concat_of_some rfl]
          exact h.keep httl
      | findRole | listTeams | listReceivedDelegations | listReceivedOverrides =>
          exact ⟨.found t, ⟨rfl, h.answers fun _ => rfl⟩, hquiet rfl (by rw [h.answer_eq]; rfl)⟩
      | _ => exact hc.elim
  | kept => exact hc.elim

/-- A call of the assignment is answered as it counts on. -/
theorem Underway.right (h : race.Underway x y z b (moments made))
    (hc : (assigning race.organization race.user (.dynamic race.role) race.assigns x).allows z c) :
    ∃ z', (assigning race.organization race.user (.dynamic race.role) race.assigns x).leads z c
        (b.answer c).1 z' ∧
      race.Underway x y z' (b.answer c).2 (moments (made ++ [(.right, c)])) := by
  have hquiet : c.Reports →
      race.Underway x y z (b.answer c).2 (moments (made ++ [(.right, c)])) := by
    intro hreports
    obtain ⟨hkeeps, hcache⟩ := hreports.keeps b
    have hmoment : Moment.of? (.right, c) = none := by
      cases c <;> first | rfl | exact hreports.elim
    rw [moments_concat_of_none hmoment]
    exact h.of_keeps hkeeps fun _ => hcache
  cases z with
  | begun =>
      rcases hc with hlooks | rfl
      · have hmoment : Moment.of? (.right, c) = none := by
          cases c <;> first | rfl | exact hlooks.elim
        have hanswers : x.Answers c (b.answer c).1 := ⟨b, h.unchanged (.inl rfl), rfl⟩
        refine ⟨.begun, ?_, ?_⟩
        · cases c <;> first | exact ⟨rfl, hanswers⟩ | exact hlooks.elim
        · rw [moments_concat_of_none hmoment]
          exact h.of_keeps (hlooks.keeps b) fun hz => nomatch hz
      · have hstore : b.store = x.store := congrArg Situation.store (h.unchanged (.inl rfl))
        rw [h.answer_eq, moments_concat_of_some rfl]
        simp only [serve, setMemberRole, hstore]
        cases hassign : x.store.setMemberRole race.organization race.user (.dynamic race.role) with
        | ok changed => exact ⟨.assigned, rfl, h.assign hassign⟩
        | error fault => exact ⟨.failed, rfl, h.fail⟩
  | assigned =>
      rcases hc with hreports | rfl
      · refine ⟨.assigned, ?_, hquiet hreports⟩
        cases c <;> first | rfl | exact hreports.elim
      · refine ⟨.forgotten, rfl, ?_⟩
        rw [h.answer_eq, moments_concat_of_some rfl]
        exact h.forget
  | forgotten => exact ⟨.forgotten, rfl, hquiet hc⟩
  | failed => exact hc.elim

end Steps

/-! ## Behind both -/

section Behind

variable {σ : Type} {race : Race}

/-- Both at their beginning, over a state that they share. -/
def start (race : Race) (state : σ) : Joint Call Call.Reply RuleSet Member σ where
  left := Authorization.ruleSet race.asks race.organization (some race.user)
  right := Administration.assignRole race.assigns race.actor race.user race.role
  state

/-- Whatever turns the calls take: once both are done and the assignment has succeeded, the role is
that of the member, and whoever asks for the member's rules gets those of the new role.  Only where
the two have crossed, those of the old one are found. -/
def Settles (race : Race) (answer : (c : Call) → σ → Outcome c.Reply × σ) (store : σ → Store)
    (state : σ) : Prop :=
  ∀ (turns : List Side) (r : Outcome RuleSet) (m : Member),
    let j := (race.start state).run answer turns
    let found := ((Authorization.ruleSet race.asks race.organization (some race.user)).run answer
      j.state).1
    j.left.result? = some r → j.right.result? = some (.ok m) →
      (∃ m', race.assign (store state) = .ok (m', store j.state)) ∧
        (¬Crossed (moments j.made) → found = .ok (race.rules (store j.state))) ∧
        (Crossed (moments j.made) → found = .ok (race.rules (store state)))

theorem Underway.remembered?_eq {x : Situation} {y : Inquiry} {z : Assignment} {b : Backend}
    {ms : List Moment} (h : race.Underway x y z b ms) :
    b.remembered? race.asks race.organization race.user =
      if race.asks.ttl?.isSome then b.cache.get race.organization race.user else none := by
  rw [remembered?, outage?, h.working]
  cases race.asks.ttl? with
  | none => rfl
  | some ttl => rfl

theorem Underway.rules_of_crossed {x : Situation} {y : Inquiry} {z : Assignment} {b : Backend}
    {ms : List Moment} (h : race.Underway x y z b ms) (hcrossed : Crossed ms) :
    b.rules race.asks race.organization race.user = race.rules x.store := by
  obtain ⟨httl, hget⟩ := h.crossed (h.forgotten.mp hcrossed.2.mem) hcrossed
  rw [Backend.rules, h.remembered?_eq, if_pos httl, hget]
  rfl

theorem Underway.rules_of_not_crossed {x : Situation} {y : Inquiry} {z : Assignment} {b : Backend}
    {ms : List Moment} (h : race.Underway x y z b ms) (hdone : z.IsDone race.assigns)
    (hcache : race.assigns.cacheTtl = race.asks.cacheTtl) (hcrossed : ¬Crossed ms) :
    b.rules race.asks race.organization race.user = race.rules b.store := by
  rw [Backend.rules, h.remembered?_eq]
  rcases hdone with rfl | ⟨-, hnone⟩
  · cases hget : b.cache.get race.organization race.user with
    | none =>
        rw [ite_self]
        rfl
    | some rules =>
        rw [h.current rfl hcrossed rules hget]
        split <;> rfl
  · rw [ttl?_eq_none (hcache.symm.trans hnone)]
    rfl

theorem underway_start {b : Backend} (hworking : b.broken = []) :
    race.Underway b.situation .begun .begun b [] where
  working := hworking
  unchanged _ := rfl
  changed hz := by simp at hz
  lookedUp := by simp
  forgotten := by simp
  seen t ht := nomatch ht
  crossed hz := nomatch hz
  current hz := nomatch hz

theorem settles_in_memory (hcache : race.assigns.cacheTtl = race.asks.cacheTtl) {b : Backend}
    (hworking : b.broken = []) : race.Settles Backend.answer Backend.store b := by
  intro turns r m j found hleft hright
  have hbegin : Joint.Holds (inquiring race.organization race.user race.asks)
      (assigning race.organization race.user (.dynamic race.role) race.assigns b.situation)
      (fun _ _ => True) (fun r z => ∀ m, r = .ok m → z.IsDone race.assigns)
      (fun y z d made => race.Underway b.situation y z d (moments made)) (race.start b) :=
    ⟨.begun, .begun, Authorization.meets_ruleSet, Administration.meets_assignRole,
      underway_start hworking⟩
  have hend := hbegin.run Backend.answer (fun _ _ _ _ _ h hc => h.left hc)
    (fun _ _ _ _ _ h hc => h.right hc) turns
  obtain ⟨y, z, -, hdone, hunderway⟩ := hend.of_done hleft hright
  have hfound : found = .ok (j.state.rules race.asks race.organization race.user) :=
    Authorization.run_ruleSet_of_working hunderway.working
  have hz := hdone m rfl
  refine ⟨hunderway.changed ?_, fun hcrossed => ?_, fun hcrossed => ?_⟩
  · exact hz.elim .inr fun hassigned => .inl hassigned.1
  · rw [hfound, hunderway.rules_of_not_crossed hz hcache hcrossed]
  · rw [hfound, hunderway.rules_of_crossed hcrossed]
    rfl

/-- The same holds where the cache is on a server. -/
theorem settles_on_server (hcache : race.assigns.cacheTtl = race.asks.cacheTtl)
    {cache : CacheServer.Cache} {d : CacheServer.SharedBackend} {rules : RuleCache}
    (hworking : d.backend.broken = []) (hholds : CacheServer.Holds cache d.kept rules) :
    race.Settles (CacheServer.SharedBackend.answer cache) (·.backend.store) d := by
  intro turns r m k found hleft hright
  let b : Backend := { d.backend with cache := rules }
  have hstep : Joint.AnswersAlike (CacheServer.SharedBackend.Mirrors cache) Backend.answer
      (CacheServer.SharedBackend.answer cache) := fun _ _ _ h => h.answer
  have hbegin : Joint.Alike (CacheServer.SharedBackend.Mirrors cache) (race.start b)
      (race.start d) := ⟨rfl, rfl, ⟨rfl, hholds⟩, rfl⟩
  have hsame := hbegin.run hstep turns
  obtain ⟨hassigned, hrules⟩ := settles_in_memory hcache (b := b) hworking turns r m
    (hsame.left ▸ hleft) (hsame.right ▸ hright)
  have hstore : k.state.backend.store = ((race.start b).run Backend.answer turns).state.store := by
    rw [hsame.state.backend]
  rw [hstep.run _ hsame.state, hsame.made] at hrules
  simp only [hstore]
  exact ⟨hassigned, hrules⟩

/-- A question for a member's rules beside the assignment of a role to the member. -/
theorem settles (race : Race) (hcache : race.assigns.cacheTtl = race.asks.cacheTtl) :
    (∀ b : Backend, b.broken = [] → race.Settles Backend.answer Backend.store b) ∧
      ∀ (cache : CacheServer.Cache) (d : CacheServer.SharedBackend) (rules : RuleCache),
        d.backend.broken = [] → CacheServer.Holds cache d.kept rules →
          race.Settles (CacheServer.SharedBackend.answer cache) (·.backend.store) d :=
  ⟨fun _ hworking => settles_in_memory hcache hworking,
    fun _ _ _ hworking hholds => settles_on_server hcache hworking hholds⟩

end Behind

end Race

namespace Sample

/-- The viewer's rules are asked for while the administrator makes a member of the viewer. -/
def race : Race where
  asks := { now := ⟨1⟩, cacheTtl := some 300 }
  assigns := { now := ⟨1⟩, cacheTtl := some 300 }
  actor := actor admin
  user := viewer
  role := roleId .member

def promoted : Member := memberAs viewer (.dynamic (roleId .member))

def promotedStore : Store := store.putMember promoted

/-- All has been found out about the viewer when the role is assigned, and the rules are put in
behind that. -/
def crossing : List Side :=
  List.replicate 5 .left ++ List.replicate 30 .right ++ [.left]

/-- The membership is looked up when the role is assigned, and the rules are put in before they are
forgotten. -/
def overlapping : List Side :=
  [.left] ++ List.replicate 15 .right ++ List.replicate 6 .left ++ List.replicate 3 .right

/-- The sample with its cache on a server that keeps nothing yet. -/
def sharedBackend : CacheServer.SharedBackend := ⟨backend, fun _ => none⟩

end Sample

open Sample in
/-- Where the two cross, the old rules of the viewer are found.  They are not found in the other
order, with the cache on a server. -/
theorem viewer_rules_beside_promotion :
    let j := (race.start backend).run Backend.answer crossing
    let answer := CacheServer.SharedBackend.answer ⟨"rules"⟩
    let k := (race.start sharedBackend).run answer overlapping
    let question := Authorization.ruleSet race.asks organization (some viewer)
    (question.run Backend.answer j.state).1 = .ok (race.rules store) ∧
      (question.run answer k.state).1 = .ok (race.rules k.state.backend.store) := by
  have hold := (race.settles rfl).1 backend rfl crossing (.ok (race.rules store)) promoted
    (by decide +kernel) (by decide +kernel)
  have hnew := (race.settles rfl).2 ⟨"rules"⟩ sharedBackend {} rfl (CacheServer.holds_empty _)
    overlapping (.ok (race.rules promotedStore)) promoted
    (by decide +kernel) (by decide +kernel)
  exact ⟨hold.2.2 (by decide +kernel), hnew.2.1 (by decide +kernel)⟩

open Sample in
/-- So it is not always the rules of the new role that are found behind an assignment. -/
theorem viewer_keeps_old_rules :
    ¬∀ (turns : List Side) (r : Outcome RuleSet) (m : Member),
      let j := (race.start backend).run Backend.answer turns
      j.left.result? = some r → j.right.result? = some (.ok m) →
        ((Authorization.ruleSet race.asks organization (some viewer)).run Backend.answer
          j.state).1 = .ok (race.rules j.state.store) := by
  intro h
  have hnew := h crossing (.ok (race.rules store)) promoted (by decide +kernel)
    (by decide +kernel)
  revert hnew
  decide +kernel

end AccessControl

import Mathlib.Data.List.Basic
import AccessControl.Backend
import AccessControl.CacheServer
import AccessControl.Proofs.RuleTexts
import AccessControl.Proofs.Tables

/-!
# Rule sets on a cache server

A server keeps texts under keys, and here nothing expires.  `Holds` says that the texts kept under
the keys of a cache stand for certain remembered rules: the rule set of a user is kept under the key
of the present counts, and nothing is kept under the key of a count that has not been reached.

Each call of the cache is answered as the remembered rules answer it, and what is kept then stands
for what is remembered then.  So a service does not see whether its cache is in memory or on a
server (`SharedBackend.Mirrors.answer`).
-/

namespace AccessControl

namespace Id

variable {kind : Entity}

theorem toString_injective {a b : Id kind} (h : a.toString = b.toString) : a = b := by
  have hread := congrArg (@ofText? kind) h
  rw [ofText?_toString, ofText?_toString] at hread
  exact Option.some.inj hread

/-- All identifiers are written with the same number of characters. -/
theorem length_toString (id : Id kind) : id.toString.toList.length = 36 := by
  rw [toString, Uuid.toString, String.toList_ofList, Uuid.length_joinGroups, Uuid.toChars,
    List.length_map, Text.length_toDigits]
  rfl

/-- So it can be seen where an identifier ends. -/
theorem append_inj {a b : Id kind} {cs ds : List Char}
    (h : a.toString.toList ++ cs = b.toString.toList ++ ds) : a = b ∧ cs = ds := by
  obtain ⟨htext, hrest⟩ := List.append_inj h ((length_toString a).trans (length_toString b).symm)
  exact ⟨toString_injective (String.toList_injective htext), hrest⟩

end Id

namespace CacheServer

/-- What a server keeps under its keys. -/
abbrev Kept := String → Option String

namespace Kept

/-- A counter, zero where nothing has been counted. -/
def count (kept : Kept) (counter : String) : String := (kept counter).getD "0"

/-- The key of the present counts. -/
def entryKey (kept : Kept) (a : Address) : String :=
  a.base ++ ":e" ++ kept.count a.epoch ++ ":v" ++ kept.count a.version

def put (kept : Kept) (key text : String) : Kept := fun k => if k = key then some text else kept k

/-- The number that a text writes in decimal. -/
def number? (text : String) : Option Nat :=
  if text ≠ "" ∧ text.toList.all Char.isDigit then some (Nat.ofDigitChars 10 text.toList 0)
  else none

/-- A server carries out a command at once.  What is no number cannot be counted up. -/
def answer : (c : Command) → Kept → Outcome (Reply c) × Kept
  | .connect, kept => (.ok (some .nothing), kept)
  | .read a, kept =>
    match kept (kept.entryKey a) with
    | none => (.ok (some .nothing), kept)
    | some text => (.ok (some (.text text)), kept)
  | .write a text _, kept => (.ok (some (.integer 1)), kept.put (kept.entryKey a) text)
  | .increment counter, kept =>
    match number? (kept.count counter) with
    | none => (.ok none, kept)
    | some n => (.ok (some (.integer (n + 1))), kept.put counter (toString (n + 1)))

theorem isDigit_of_mem_toString {n : Nat} {c : Char} (h : c ∈ (toString n).toList) :
    c.isDigit = true := by
  rw [Nat.toString_eq_ofList_toDigits, String.toList_ofList] at h
  exact Nat.isDigit_of_mem_toDigits (by decide) (by decide) h

theorem number?_toString (n : Nat) : number? (toString n) = some n := by
  have hall : (toString n).toList.all Char.isDigit = true :=
    List.all_eq_true.mpr fun c hc => isDigit_of_mem_toString hc
  rw [number?, if_pos ⟨Nat.repr_ne_empty, hall⟩, Nat.toString_eq_ofList_toDigits,
    String.toList_ofList, Nat.ofDigitChars_ten_toDigits]

theorem answer_increment {kept : Kept} {counter : String} {n : Nat}
    (h : kept.count counter = toString n) : answer (.increment counter) kept =
      (.ok (some (.integer (n + 1))), kept.put counter (toString (n + 1))) := by
  rw [answer, h, number?_toString]

theorem toString_injective {m n : Nat} (h : toString m = toString n) : m = n := by
  have hread := congrArg number? h
  rw [number?_toString, number?_toString] at hread
  exact Option.some.inj hread

end Kept

/-! ## Keys -/

namespace Cache

/-- The key of the rules of a user under the counts. -/
def ruleKey (c : Cache) (organization : OrganizationId) (user : UserId) (epoch version : Nat) :
    String :=
  (c.address organization user).base ++ ":e" ++ toString epoch ++ ":v" ++ toString version

variable {c : Cache} {organization organization' : OrganizationId} {user user' : UserId}
  {epoch epoch' version version' : Nat}

theorem toList_epochKey : (c.epochKey organization).toList =
    c.label.toList ++ (":epoch:".toList ++ organization.toString.toList) := by
  simp [epochKey, toString]

theorem toList_versionKey : (c.versionKey organization user).toList =
    c.label.toList ++ (":version:".toList ++
      (organization.toString.toList ++ ':' :: user.toString.toList)) := by
  simp [versionKey, toString]

theorem toList_ruleKey : (c.ruleKey organization user epoch version).toList =
    c.label.toList ++ (":rules:".toList ++
      (organization.toString.toList ++ ':' :: (user.toString.toList ++
        ':' :: 'e' :: ((toString epoch).toList ++ ':' :: 'v' :: (toString version).toList)))) := by
  simp [ruleKey, address, toString]

theorem ruleKey_ne_epochKey :
    c.ruleKey organization user epoch version ≠ c.epochKey organization' := by
  intro h
  have hlist := congrArg String.toList h
  rw [toList_ruleKey, toList_epochKey, List.append_right_inj] at hlist
  cases hlist

theorem ruleKey_ne_versionKey :
    c.ruleKey organization user epoch version ≠ c.versionKey organization' user' := by
  intro h
  have hlist := congrArg String.toList h
  rw [toList_ruleKey, toList_versionKey, List.append_right_inj] at hlist
  cases hlist

theorem epochKey_ne_versionKey : c.epochKey organization ≠ c.versionKey organization' user' := by
  intro h
  have hlist := congrArg String.toList h
  rw [toList_epochKey, toList_versionKey, List.append_right_inj] at hlist
  cases hlist

theorem epochKey_inj :
    c.epochKey organization = c.epochKey organization' ↔ organization = organization' := by
  refine ⟨fun h => ?_, fun h => h ▸ rfl⟩
  have hlist := congrArg String.toList h
  rw [toList_epochKey, toList_epochKey, List.append_right_inj, List.append_right_inj] at hlist
  exact Id.toString_injective (String.toList_injective hlist)

theorem versionKey_inj : c.versionKey organization user = c.versionKey organization' user' ↔
    organization = organization' ∧ user = user' := by
  refine ⟨fun h => ?_, fun ⟨ho, hu⟩ => ho ▸ hu ▸ rfl⟩
  have hlist := congrArg String.toList h
  rw [toList_versionKey, toList_versionKey, List.append_right_inj, List.append_right_inj] at hlist
  obtain ⟨ho, hrest⟩ := Id.append_inj hlist
  exact ⟨ho, Id.toString_injective (String.toList_injective (List.cons.inj hrest).2)⟩

theorem ruleKey_inj :
    c.ruleKey organization user epoch version = c.ruleKey organization' user' epoch' version' ↔
      organization = organization' ∧ user = user' ∧ epoch = epoch' ∧ version = version' := by
  constructor
  · intro h
    have hlist := congrArg String.toList h
    rw [toList_ruleKey, toList_ruleKey, List.append_right_inj, List.append_right_inj] at hlist
    obtain ⟨ho, hrest⟩ := Id.append_inj hlist
    obtain ⟨hu, hcounts⟩ := Id.append_inj (List.cons.inj hrest).2
    have hdigits : ∀ n : Nat, ':' ∉ (toString n).toList := fun n hmem =>
      absurd (Kept.isDigit_of_mem_toString hmem) (by decide)
    have hparts := (List.append_cons_inj_of_notMem (hdigits epoch')
      (by simpa using hdigits version')).mp (List.cons.inj (List.cons.inj hcounts).2).2.symm
    refine ⟨ho, hu, ?_, ?_⟩
    · exact (Kept.toString_injective (String.toList_injective hparts.1)).symm
    · exact (Kept.toString_injective (String.toList_injective (List.cons.inj hparts.2.2).2)).symm
  · rintro ⟨rfl, rfl, rfl, rfl⟩
    rfl

end Cache

namespace Kept

variable {kept : Kept} {key key' text : String}

theorem put_self : kept.put key text key = some text := if_pos rfl

theorem put_of_ne (h : key' ≠ key) : kept.put key text key' = kept key' := if_neg h

theorem count_put_self : (kept.put key text).count key = text := by
  rw [count, put_self, Option.getD_some]

theorem count_put_of_ne (h : key' ≠ key) : (kept.put key text).count key' = kept.count key' := by
  rw [count, put_of_ne h, count]

end Kept

/-! ## What is kept and what is remembered -/

/-- The texts kept under the keys of the cache stand for the rules, where organizations and users
have these counts. -/
structure Counts (c : Cache) (epoch : OrganizationId → Nat)
    (version : OrganizationId → UserId → Nat) (kept : Kept) (rules : RuleCache) : Prop where
  epochs : ∀ organization, kept.count (c.epochKey organization) = toString (epoch organization)
  versions : ∀ organization user,
    kept.count (c.versionKey organization user) = toString (version organization user)
  present : ∀ organization user,
    kept (c.ruleKey organization user (epoch organization) (version organization user)) =
      (rules.get organization user).map (·.toJson.render)
  ahead : ∀ organization user e v, epoch organization < e ∨ version organization user < v →
    kept (c.ruleKey organization user e v) = none

/-- The texts kept under the keys of the cache stand for the rules. -/
def Holds (c : Cache) (kept : Kept) (rules : RuleCache) : Prop :=
  ∃ epoch version, Counts c epoch version kept rules

/-- In the beginning nothing is kept and nothing is remembered. -/
theorem holds_empty (c : Cache) : Holds c (fun _ => none) {} :=
  ⟨fun _ => 0, fun _ _ => 0, fun _ => rfl, fun _ _ => rfl, fun _ _ => rfl, fun _ _ _ _ _ => rfl⟩

section Calls

variable {c : Cache} {epoch : OrganizationId → Nat} {version : OrganizationId → UserId → Nat}
  {kept : Kept} {rules : RuleCache}

theorem Counts.entryKey (h : Counts c epoch version kept rules) (organization : OrganizationId)
    (user : UserId) : kept.entryKey (c.address organization user) =
      c.ruleKey organization user (epoch organization) (version organization user) := by
  have hepoch := h.epochs organization
  have hversion := h.versions organization user
  rw [Kept.entryKey, Cache.ruleKey]
  change _ ++ ":e" ++ kept.count (c.epochKey organization) ++ ":v" ++
    kept.count (c.versionKey organization user) = _
  rw [hepoch, hversion]

/-- A text is put under the key of the present counts. -/
theorem Counts.set (h : Counts c epoch version kept rules) (organization : OrganizationId)
    (user : UserId) (own : RuleSet) {ttl : Nat} (httl : ttl ≠ 0) :
    Counts c epoch version
      (kept.put (c.ruleKey organization user (epoch organization) (version organization user))
        own.toJson.render) (rules.set organization user own ttl) where
  epochs o := (Kept.count_put_of_ne Cache.ruleKey_ne_epochKey.symm).trans (h.epochs o)
  versions o u := (Kept.count_put_of_ne Cache.ruleKey_ne_versionKey.symm).trans (h.versions o u)
  present o u := by
    rw [RuleCache.get_set]
    by_cases hkey : o = organization ∧ u = user
    · obtain ⟨rfl, rfl⟩ := hkey
      rw [Kept.put_self, if_pos ⟨httl, rfl, rfl⟩, Option.map_some]
    · rw [Kept.put_of_ne fun heq => hkey ?_, if_neg fun hall => hkey hall.2, h.present]
      obtain ⟨ho, hu, -⟩ := Cache.ruleKey_inj.mp heq
      exact ⟨ho, hu⟩
  ahead o u e v hahead := by
    rw [Kept.put_of_ne, h.ahead o u e v hahead]
    intro heq
    obtain ⟨rfl, rfl, rfl, rfl⟩ := Cache.ruleKey_inj.mp heq
    exact hahead.elim (Nat.lt_irrefl _) (Nat.lt_irrefl _)

/-- What was kept of the user is behind the next count. -/
theorem Counts.forgetUser (h : Counts c epoch version kept rules) (organization : OrganizationId)
    (user : UserId) :
    Counts c epoch
      (fun o u => if o = organization ∧ u = user then version organization user + 1
        else version o u)
      (kept.put (c.versionKey organization user) (toString (version organization user + 1)))
      (rules.forgetUser organization user) where
  epochs o := (Kept.count_put_of_ne Cache.epochKey_ne_versionKey).trans (h.epochs o)
  versions o u := by
    by_cases hkey : o = organization ∧ u = user
    · obtain ⟨rfl, rfl⟩ := hkey
      rw [Kept.count_put_self, if_pos ⟨rfl, rfl⟩]
    · rw [Kept.count_put_of_ne fun heq => hkey (Cache.versionKey_inj.mp heq), if_neg hkey,
        h.versions]
  present o u := by
    rw [Kept.put_of_ne Cache.ruleKey_ne_versionKey, RuleCache.get_forgetUser]
    by_cases hkey : o = organization ∧ u = user
    · obtain ⟨rfl, rfl⟩ := hkey
      rw [if_pos ⟨rfl, rfl⟩, if_pos ⟨rfl, rfl⟩,
        h.ahead _ _ _ _ (.inr (Nat.lt_succ_self _)), Option.map_none]
    · rw [if_neg hkey, if_neg hkey, h.present]
  ahead o u e v hahead := by
    rw [Kept.put_of_ne Cache.ruleKey_ne_versionKey, h.ahead]
    refine hahead.imp_right fun hv => ?_
    split at hv
    · rename_i hkey
      obtain ⟨rfl, rfl⟩ := hkey
      exact Nat.lt_of_succ_lt hv
    · exact hv

/-- What was kept of the organization's users is behind the next count. -/
theorem Counts.forgetOrganization (h : Counts c epoch version kept rules)
    (organization : OrganizationId) :
    Counts c (fun o => if o = organization then epoch organization + 1 else epoch o) version
      (kept.put (c.epochKey organization) (toString (epoch organization + 1)))
      (rules.forgetOrganization organization) where
  epochs o := by
    by_cases hkey : o = organization
    · obtain rfl := hkey
      rw [Kept.count_put_self, if_pos rfl]
    · rw [Kept.count_put_of_ne fun heq => hkey (Cache.epochKey_inj.mp heq), if_neg hkey, h.epochs]
  versions o u := (Kept.count_put_of_ne Cache.epochKey_ne_versionKey.symm).trans (h.versions o u)
  present o u := by
    rw [Kept.put_of_ne Cache.ruleKey_ne_epochKey, RuleCache.get_forgetOrganization]
    by_cases hkey : o = organization
    · obtain rfl := hkey
      rw [if_pos rfl, if_pos rfl, h.ahead _ _ _ _ (.inl (Nat.lt_succ_self _)), Option.map_none]
    · rw [if_neg hkey, if_neg hkey, h.present]
  ahead o u e v hahead := by
    rw [Kept.put_of_ne Cache.ruleKey_ne_epochKey, h.ahead]
    refine hahead.imp_left fun he => ?_
    split at he
    · rename_i hkey
      obtain rfl := hkey
      exact Nat.lt_of_succ_lt he
    · exact he

end Calls

/-! ## The calls of the cache -/

section Sessions

variable {c : Cache} {kept : Kept} {rules : RuleCache}

theorem run_send {α : Type} (task : String) (read : Value → Option α) (command : Command)
    {kept' : Kept} {value : Value} {a : α}
    (hanswer : Kept.answer command kept = (.ok (some value), kept')) (hread : read value = some a) :
    (Cache.send task read command).run Kept.answer kept = (.ok a, kept') := by
  have hconnect : Kept.answer .connect kept = (.ok (some .nothing), kept) := rfl
  simp [Cache.send, Program.run_bind, hconnect, hanswer, hread]

/-- Where the number that is returned does not matter. -/
theorem run_effect {command : Command} {kept' : Kept} {n : Int} (task : String)
    (hanswer : Kept.answer command kept = (.ok (some (.integer n)), kept')) :
    (do let _ ← Cache.send task Value.integer? command : Session Unit).run Kept.answer kept =
      (.ok (), kept') := by
  rw [Program.run_bind, run_send task Value.integer? command hanswer rfl]
  rfl

theorem run_read {task : String} (a : Address) :
    (Cache.send task (some ·.text?) (.read a)).run Kept.answer kept =
      (.ok (kept (kept.entryKey a)), kept) := by
  cases hkept : kept (kept.entryKey a) with
  | none => exact run_send _ _ _ (by rw [Kept.answer, hkept]) rfl
  | some text => exact run_send _ _ _ (by rw [Kept.answer, hkept]) rfl

/-- The server returns the rules that are remembered. -/
theorem Holds.run_get (h : Holds c kept rules) (organization : OrganizationId) (user : UserId) :
    (c.get organization user).run Kept.answer kept = (.ok (rules.get organization user), kept) := by
  obtain ⟨epoch, version, hcounts⟩ := h
  rw [Cache.get, Program.run_bind, run_read, hcounts.entryKey, hcounts.present]
  cases rules.get organization user with
  | none => rfl
  | some own => simp [Cache.decode, RuleSet.readText_render, Program.run_bind]

/-- The server keeps the rules that are put in. -/
theorem Holds.run_set (h : Holds c kept rules) (organization : OrganizationId) (user : UserId)
    (own : RuleSet) (ttl : Nat) :
    ∃ kept', (c.set organization user own ttl).run Kept.answer kept = (.ok (), kept') ∧
      Holds c kept' (rules.set organization user own ttl) := by
  obtain ⟨epoch, version, hcounts⟩ := h
  by_cases httl : ttl = 0
  · refine ⟨kept, ?_, epoch, version, ?_⟩
    · simp [Cache.set, httl]
    · rwa [RuleCache.set, if_pos httl]
  · have hanswer : Kept.answer (.write (c.address organization user) own.toJson.render ttl) kept =
        (.ok (some (.integer 1)),
          kept.put (kept.entryKey (c.address organization user)) own.toJson.render) := rfl
    have hsend := run_effect "write capability cache entry" hanswer
    rw [hcounts.entryKey] at hsend
    refine ⟨_, ?_, epoch, version, hcounts.set organization user own httl⟩
    simpa [Cache.set, httl] using hsend

/-- The server counts up, and nothing is kept of the user. -/
theorem Holds.run_forgetUser (h : Holds c kept rules) (organization : OrganizationId)
    (user : UserId) :
    ∃ kept', (c.forgetUser organization user).run Kept.answer kept = (.ok (), kept') ∧
      Holds c kept' (rules.forgetUser organization user) := by
  obtain ⟨epoch, version, hcounts⟩ := h
  have hanswer := Kept.answer_increment (hcounts.versions organization user)
  exact ⟨_, run_effect _ hanswer, _, _, hcounts.forgetUser organization user⟩

/-- The server counts up, and nothing is kept of the organization's users. -/
theorem Holds.run_forgetOrganization (h : Holds c kept rules) (organization : OrganizationId) :
    ∃ kept', (c.forgetOrganization organization).run Kept.answer kept = (.ok (), kept') ∧
      Holds c kept' (rules.forgetOrganization organization) := by
  obtain ⟨epoch, version, hcounts⟩ := h
  have hanswer := Kept.answer_increment (hcounts.epochs organization)
  exact ⟨_, run_effect _ hanswer, _, _, hcounts.forgetOrganization organization⟩

end Sessions

/-! ## Answering the calls of a service -/

/-- A state whose own cache is not used, and what a server keeps instead. -/
structure SharedBackend where
  backend : Backend
  kept : Kept

/-- The session that stands for a call of the cache. -/
def Cache.session? (cache : Cache) : (c : Call) → Option (Session c.Reply)
  | .cachedRules organization user => some (cache.get organization user)
  | .cacheRules organization user rules ttl => some (cache.set organization user rules ttl)
  | .forgetUser organization user => some (cache.forgetUser organization user)
  | .forgetOrganization organization => some (cache.forgetOrganization organization)
  | _ => none

namespace SharedBackend

def serve (cache : Cache) (c : Call) (b : SharedBackend) : Outcome c.Reply × SharedBackend :=
  match cache.session? c with
  | some p => ((p.run Kept.answer b.kept).1, { b with kept := (p.run Kept.answer b.kept).2 })
  | none => ((b.backend.serve c).1, { b with backend := (b.backend.serve c).2 })

/-- What a call answers, in order or not. -/
def answer (cache : Cache) (c : Call) (b : SharedBackend) : Outcome c.Reply × SharedBackend :=
  match b.backend.outage? c with
  | some fault => (.error fault, b)
  | none => b.serve cache c

end SharedBackend

section Mirror

variable {cache : Cache} {c : Call} {b : Backend} {d : SharedBackend}

theorem SharedBackend.serve_of_session {p : Session c.Reply} {r : Outcome c.Reply} {kept : Kept}
    (hc : cache.session? c = some p) (hrun : p.run Kept.answer d.kept = (r, kept)) :
    d.serve cache c = (r, { d with kept }) := by
  simp only [serve, hc, hrun]

theorem SharedBackend.serve_of_none (hc : cache.session? c = none) :
    d.serve cache c =
      ((d.backend.serve c).1, { d with backend := (d.backend.serve c).2 }) := by
  simp only [serve, hc]

/-- The calls that are not of the cache do not see it. -/
theorem serve_with_cache (hc : cache.session? c = none) (b : Backend) (rules : RuleCache) :
    Backend.serve c { b with cache := rules } =
      ((b.serve c).1, { (b.serve c).2 with cache := rules }) := by
  have hupdate : ∀ r, Backend.update { b with cache := rules } r =
      ((b.update r).1, { (b.update r).2 with cache := rules }) := by
    rintro (_ | _) <;> rfl
  have hinsert : ∀ kind r, Backend.insert { b with cache := rules } kind r =
      ((b.insert kind r).1, { (b.insert kind r).2 with cache := rules }) := by
    rintro kind (_ | _) <;> rfl
  cases c with
  | cachedRules | cacheRules | forgetUser | forgetOrganization => cases hc
  | createRole | createDelegation | createOverride => exact hinsert _ _
  | updateRole | deleteRole | addGrant | removeGrant | saveDelegation | saveOverride =>
      exact hupdate _
  | setMemberRole organization user role =>
      simp only [Backend.serve, Backend.setMemberRole]
      cases b.store.setMemberRole organization user role with
      | ok _ => rfl
      | error _ => rfl
  | appendEntry e =>
      obtain ⟨store, log, queue, cache, wall, mint, used, broken⟩ := b
      cases queue with
      | none => rfl
      | some queue =>
          simp only [Backend.serve, Backend.appendEntry]
          cases queue.push e with
          | ok _ => rfl
          | error _ => rfl
  | _ => rfl

/-- Behind the calls are the same records, and the server keeps the rules that are remembered in
memory. -/
structure SharedBackend.Mirrors (cache : Cache) (b : Backend) (d : SharedBackend) : Prop where
  backend : d.backend = { b with cache := d.backend.cache }
  holds : Holds cache d.kept b.cache

/-- A call is answered alike, whether the cache is in memory or on a server. -/
theorem SharedBackend.Mirrors.answer (h : Mirrors cache b d) :
    (b.answer c).1 = (d.answer cache c).1 ∧ Mirrors cache (b.answer c).2 (d.answer cache c).2 := by
  have houtage : d.backend.outage? c = b.outage? c := by rw [h.backend]; rfl
  rw [Backend.answer, SharedBackend.answer, houtage]
  cases b.outage? c with
  | some fault => exact ⟨rfl, h⟩
  | none =>
      have hother : cache.session? c = none → (b.serve c).1 = (d.serve cache c).1 ∧
          Mirrors cache (b.serve c).2 (d.serve cache c).2 := by
        intro hc
        have hserve := (congrArg (Backend.serve c) h.backend).trans
          (serve_with_cache hc b d.backend.cache)
        have hkept : (b.serve c).2.cache = b.cache :=
          congrArg (·.2.cache) (serve_with_cache hc b b.cache)
        rw [serve_of_none hc, hserve]
        exact ⟨rfl, rfl, hkept ▸ h.holds⟩
      cases c with
      | cachedRules organization user =>
          rw [serve_of_session rfl (h.holds.run_get organization user)]
          exact ⟨rfl, h⟩
      | cacheRules organization user rules ttl =>
          obtain ⟨kept, hrun, hkept⟩ := h.holds.run_set organization user rules ttl
          rw [serve_of_session rfl hrun]
          exact ⟨rfl, h.backend, hkept⟩
      | forgetUser organization user =>
          obtain ⟨kept, hrun, hkept⟩ := h.holds.run_forgetUser organization user
          rw [serve_of_session rfl hrun]
          exact ⟨rfl, h.backend, hkept⟩
      | forgetOrganization organization =>
          obtain ⟨kept, hrun, hkept⟩ := h.holds.run_forgetOrganization organization
          rw [serve_of_session rfl hrun]
          exact ⟨rfl, h.backend, hkept⟩
      | _ => exact hother rfl

end Mirror

end CacheServer

end AccessControl

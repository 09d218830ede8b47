import Mathlib.Data.List.Induction
import AccessControl.Proofs.SharedCache

/-!
# What a cache recalls

A cache is asked for the rules of users and told what to keep and what to forget.  After any calls
it recalls of a user what was put in last with a lifetime, as long as neither the user nor the
organization has been forgotten since (`CacheCall.LastKept`).  That holds of the cache in memory and
of one on a server that keeps nothing in the beginning, so the two answer every call alike
(`CacheCall.answered_alike`).
-/

namespace AccessControl

open CacheServer

/-- What a cache is asked and told. -/
inductive CacheCall where
  | get (organization : OrganizationId) (user : UserId)
  | set (organization : OrganizationId) (user : UserId) (rules : RuleSet) (ttl : Nat)
  | forgetUser (organization : OrganizationId) (user : UserId)
  | forgetOrganization (organization : OrganizationId)
deriving DecidableEq, Repr

namespace CacheCall

abbrev Reply : CacheCall → Type
  | get .. => Option RuleSet
  | set .. | forgetUser .. | forgetOrganization _ => Unit

/-- How the cache in memory answers. -/
def answer : (c : CacheCall) → RuleCache → c.Reply × RuleCache
  | get organization user, rules => (rules.get organization user, rules)
  | set organization user own ttl, rules => ((), rules.set organization user own ttl)
  | forgetUser organization user, rules => ((), rules.forgetUser organization user)
  | forgetOrganization organization, rules => ((), rules.forgetOrganization organization)

/-- How a cache on a server deals with the call. -/
def session (cache : Cache) : (c : CacheCall) → Session c.Reply
  | get organization user => cache.get organization user
  | set organization user own ttl => cache.set organization user own ttl
  | forgetUser organization user => cache.forgetUser organization user
  | forgetOrganization organization => cache.forgetOrganization organization

/-- What is remembered in memory after the calls. -/
def remembered (calls : List CacheCall) : RuleCache :=
  calls.foldl (fun rules c => (c.answer rules).2) ⟨.empty⟩

/-- What a server keeps after the calls. -/
def kept (cache : Cache) (calls : List CacheCall) : Kept :=
  calls.foldl (fun kept c => ((c.session cache).run Kept.answer kept).2) fun _ => none

/-- The call changes what is recalled of the user. -/
def Touches (organization : OrganizationId) (user : UserId) : CacheCall → Prop
  | get .. => False
  | set o u _ ttl => 0 < ttl ∧ o = organization ∧ u = user
  | forgetUser o u => o = organization ∧ u = user
  | forgetOrganization o => o = organization

/-- The rules were put in for the user with a lifetime, and no call behind that has touched what is
recalled of the user. -/
def LastKept (organization : OrganizationId) (user : UserId) (calls : List CacheCall)
    (rules : RuleSet) : Prop :=
  ∃ before ttl behind, calls = before ++ set organization user rules ttl :: behind ∧ 0 < ttl ∧
    ∀ c ∈ behind, ¬c.Touches organization user

/-! ## One call -/

section Call

variable {cache : Cache} {organization : OrganizationId} {user : UserId} {calls : List CacheCall}
  {rules : RuleCache} {own : RuleSet}

/-- What a server keeps stands for what is remembered, and it goes on doing so. -/
theorem holds_session {kept : Kept} (h : Holds cache kept rules) (c : CacheCall) :
    ∃ kept', (c.session cache).run Kept.answer kept = (.ok (c.answer rules).1, kept') ∧
      Holds cache kept' (c.answer rules).2 := by
  cases c with
  | get organization user => exact ⟨kept, h.run_get organization user, h⟩
  | set organization user own ttl => exact h.run_set organization user own ttl
  | forgetUser organization user => exact h.run_forgetUser organization user
  | forgetOrganization organization => exact h.run_forgetOrganization organization

/-- The rules were just put in for the user, or they are recalled since before. -/
theorem get_answer (c : CacheCall) :
    (c.answer rules).2.get organization user = some own ↔
      (∃ ttl, 0 < ttl ∧ c = set organization user own ttl) ∨
        rules.get organization user = some own ∧ ¬c.Touches organization user := by
  cases c with
  | get o u => simp [answer, Touches]
  | set o u rules' ttl =>
      rw [answer, RuleCache.get_set]
      by_cases hkey : ttl ≠ 0 ∧ organization = o ∧ user = u
      · obtain ⟨httl, rfl, rfl⟩ := hkey
        simp [httl, Nat.pos_iff_ne_zero, Touches, eq_comm]
      · have hnew : ¬∃ ttl', 0 < ttl' ∧ set o u rules' ttl = set organization user own ttl' := by
          rintro ⟨ttl', hpos, heq⟩
          cases heq
          exact hkey ⟨Nat.ne_of_gt hpos, rfl, rfl⟩
        have hmisses : ¬(set o u rules' ttl).Touches organization user := fun h =>
          hkey ⟨Nat.ne_of_gt h.1, h.2.1.symm, h.2.2.symm⟩
        rw [if_neg hkey]
        exact ⟨fun h => .inr ⟨h, hmisses⟩, fun h => (h.resolve_left hnew).1⟩
  | forgetUser o u =>
      rw [answer, RuleCache.get_forgetUser]
      by_cases hkey : organization = o ∧ user = u
      · simp [hkey, Touches]
      · have hmisses : ¬(forgetUser o u).Touches organization user := fun h =>
          hkey ⟨h.1.symm, h.2.symm⟩
        simp [hkey, hmisses]
  | forgetOrganization o =>
      rw [answer, RuleCache.get_forgetOrganization]
      by_cases hkey : organization = o
      · simp [hkey, Touches]
      · have hmisses : ¬(forgetOrganization o).Touches organization user := fun h => hkey h.symm
        simp [hkey, hmisses]

/-- The last call has put the rules in, or it has not touched them. -/
theorem lastKept_concat (c : CacheCall) :
    LastKept organization user (calls ++ [c]) own ↔
      (∃ ttl, 0 < ttl ∧ c = set organization user own ttl) ∨
        LastKept organization user calls own ∧ ¬c.Touches organization user := by
  constructor
  · rintro ⟨before, ttl, behind, heq, httl, hbehind⟩
    rcases List.eq_nil_or_concat behind with rfl | ⟨behind, last, rfl⟩
    · obtain ⟨-, hc⟩ := List.append_inj' heq rfl
      exact .inl ⟨ttl, httl, (List.cons.inj hc).1⟩
    · rw [List.concat_eq_append] at heq hbehind
      rw [← List.cons_append, ← List.append_assoc] at heq
      obtain ⟨rfl, hc⟩ := List.append_inj' heq rfl
      obtain rfl : c = last := (List.cons.inj hc).1
      refine .inr ⟨⟨before, ttl, behind, rfl, httl, ?_⟩, ?_⟩
      · exact fun d hd => hbehind d (List.mem_append_left _ hd)
      · exact hbehind c (List.mem_append_right _ (List.mem_singleton_self c))
  · rintro (⟨ttl, httl, rfl⟩ | ⟨⟨before, ttl, behind, rfl, httl, hbehind⟩, hc⟩)
    · exact ⟨calls, ttl, [], rfl, httl, nofun⟩
    · refine ⟨before, ttl, behind ++ [c], by simp, httl, ?_⟩
      intro d hd
      rcases List.mem_append.mp hd with hd | hd
      · exact hbehind d hd
      · exact List.mem_singleton.mp hd ▸ hc

end Call

/-! ## Any number of calls -/

theorem remembered_concat (calls : List CacheCall) (c : CacheCall) :
    remembered (calls ++ [c]) = (c.answer (remembered calls)).2 := by
  rw [remembered, remembered, List.foldl_append]
  rfl

theorem kept_concat (cache : Cache) (calls : List CacheCall) (c : CacheCall) :
    kept cache (calls ++ [c]) = ((c.session cache).run Kept.answer (kept cache calls)).2 := by
  rw [kept, kept, List.foldl_append]
  rfl

/-- What a server keeps after the calls stands for what is remembered after them. -/
theorem holds_kept (cache : Cache) (calls : List CacheCall) :
    Holds cache (kept cache calls) (remembered calls) := by
  induction calls using List.reverseRecOn with
  | nil => exact holds_empty cache
  | append_singleton calls c ih =>
      obtain ⟨kept', hrun, hholds⟩ := holds_session ih c
      rw [kept_concat, remembered_concat, hrun]
      exact hholds

/-- What is remembered of a user after the calls was put in last. -/
theorem get_remembered (calls : List CacheCall) (organization : OrganizationId) (user : UserId)
    (own : RuleSet) : (remembered calls).get organization user = some own ↔
      LastKept organization user calls own := by
  induction calls using List.reverseRecOn with
  | nil =>
      have hnone : ¬LastKept organization user [] own := by
        rintro ⟨before, ttl, behind, heq, -⟩
        cases before <;> cases heq
      exact iff_of_false nofun hnone
  | append_singleton calls c ih =>
      rw [remembered_concat, get_answer, lastKept_concat, ih]

/-- After any calls the cache on a server answers every call as the cache in memory does, and both
recall of a user the rules that were put in last. -/
theorem answered_alike (cache : Cache) (calls : List CacheCall) :
    (∀ c : CacheCall, ((c.session cache).run Kept.answer (kept cache calls)).1 =
        .ok (c.answer (remembered calls)).1) ∧
      ∀ organization user rules,
        ((get organization user).answer (remembered calls)).1 = some rules ↔
          LastKept organization user calls rules := by
  constructor
  · intro c
    obtain ⟨kept', hrun, -⟩ := holds_session (holds_kept cache calls) c
    rw [hrun]
  · intro organization user rules
    exact get_remembered calls organization user rules

end CacheCall

end AccessControl

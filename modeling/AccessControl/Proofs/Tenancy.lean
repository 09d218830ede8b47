import AccessControl.Proofs.Services
import AccessControl.Proofs.Tenants

/-!
# Organizations do not see each other

All organizations share one store, one audit log and one cache.  What a task does for one of them
depends on nothing that belongs to another, and leaves everything of the others as it is
(`Task.noninterference`).  `Backend.Agree` says that two states are the same as far as one
organization is concerned.

Calls answer alike in states that agree, and leave them in agreement; the discipline that all tasks
keep to carries this over to whole tasks.
-/

namespace AccessControl

open Backend

/-- The entries about an organization, in the order in which they were appended. -/
def AuditLog.entriesOf (l : AuditLog) (organization : OrganizationId) : List AuditEntry :=
  l.entries.filter fun e => e.organization = organization

/-- The states hold the same records, audit entries and remembered rules of the organization. -/
structure Backend.Agree (organization : OrganizationId) (b c : Backend) : Prop where
  store : b.store.Agree organization c.store
  entries : b.log.entriesOf organization = c.log.entriesOf organization
  kept : ∀ user, b.cache.get organization user = c.cache.get organization user

/-- The circumstances are the same: the time, the identifiers to be given out and the calls that are
out of order.  Entries go to the log directly. -/
structure Backend.Alike (b c : Backend) : Prop where
  wall : b.wall = c.wall
  mint : b.mint = c.mint
  used : b.used = c.used
  broken : b.broken = c.broken
  queue : b.queue = none ∧ c.queue = none

/-- Two calls are answered alike, and leave states that agree in circumstances that are the same. -/
structure Answered {α : Type} (organization : OrganizationId) (p q : Outcome α × Backend) :
    Prop where
  reply : p.1 = q.1
  agree : p.2.Agree organization q.2
  alike : p.2.Alike q.2

/-! ## The audit log -/

namespace AuditLog

variable {organization other : OrganizationId} {k l : AuditLog}

theorem entriesOf_append (l : AuditLog) {e : AuditEntry} (he : e.organization = organization) :
    (l.append e).entriesOf organization = l.entriesOf organization ++ [e] := by
  rw [entriesOf, append, List.filter_append, entriesOf]
  simp [he]

theorem entriesOf_append_of_ne (l : AuditLog) {e : AuditEntry} (he : e.organization ≠ other) :
    (l.append e).entriesOf other = l.entriesOf other := by
  rw [entriesOf, append, List.filter_append, entriesOf]
  simp [he]

/-- A query of an organization is answered from its entries. -/
theorem list_eq_of_entriesOf (h : k.entriesOf organization = l.entriesOf organization)
    {q : AuditQuery} (hq : q.organization = some organization) : k.list q = l.list q := by
  have hown : ∀ m : AuditLog, m.entries.filter q.selects =
      (m.entriesOf organization).filter q.selects := by
    intro m
    rw [entriesOf, List.filter_filter]
    refine List.filter_congr fun e _ => ?_
    rw [AuditQuery.selects, hq]
    cases hsame : decide (e.organization = organization) <;> simp_all
  rw [list, list, hown k, hown l, h]

theorem summarize_eq_of_entriesOf (h : k.entriesOf organization = l.entriesOf organization)
    (window : AuditWindow) :
    k.summarize (some organization) window = l.summarize (some organization) window := by
  have hown : ∀ m : AuditLog, (m.entries.filter fun e =>
        (some organization).all (e.organization = ·) && window.contains e.createdAt) =
      (m.entriesOf organization).filter fun e => window.contains e.createdAt := by
    intro m
    rw [entriesOf, List.filter_filter]
    refine List.filter_congr fun e _ => ?_
    rw [Bool.and_comm]
    rfl
  rw [summarize, summarize, hown k, hown l, h]

/-- Purging drops old entries of the organization and counts them. -/
theorem entriesOf_purge (l : AuditLog) (organization : OrganizationId) (cutoff : Instant) :
    (l.purge organization cutoff).2.entriesOf organization =
      (l.entriesOf organization).filter fun e => cutoff ≤ e.createdAt := by
  rw [purge, entriesOf, entriesOf, List.filter_filter, List.filter_filter]
  refine List.filter_congr fun e _ => ?_
  cases hsame : decide (e.organization = organization) <;> simp_all

theorem purged_eq (l : AuditLog) (organization : OrganizationId) (cutoff : Instant) :
    (l.purge organization cutoff).1 =
      (l.entriesOf organization).countP fun e => !decide (cutoff ≤ e.createdAt) := by
  have hsplit := List.length_eq_countP_add_countP
    (fun e : AuditEntry => e.organization ≠ organization || cutoff ≤ e.createdAt) (l := l.entries)
  rw [purge, ← List.countP_eq_length_filter, entriesOf, List.countP_filter]
  refine (Nat.sub_eq_of_eq_add' hsplit).trans (List.countP_congr fun e _ => ?_)
  simp [and_comm]

theorem entriesOf_purge_of_ne (l : AuditLog) (hne : other ≠ organization) (cutoff : Instant) :
    (l.purge organization cutoff).2.entriesOf other = l.entriesOf other := by
  rw [purge, entriesOf, entriesOf, List.filter_filter]
  refine List.filter_congr fun e _ => ?_
  by_cases hsame : e.organization = other
  · simp [hsame, hne]
  · simp [hsame]

end AuditLog

/-! ## Calls -/

section Calls

variable {organization : OrganizationId} {s : Setting} {x : Situation} {b c : Backend} {call : Call}

@[refl] theorem Backend.Agree.refl : b.Agree organization b := ⟨.refl, rfl, fun _ => rfl⟩

theorem Backend.Agree.trans {d : Backend} (h : b.Agree organization c)
    (h' : c.Agree organization d) : b.Agree organization d where
  store := h.store.trans h'.store
  entries := h.entries.trans h'.entries
  kept user := (h.kept user).trans (h'.kept user)

theorem Backend.Alike.nextId (h : b.Alike c) (kind : Entity) : b.nextId kind = c.nextId kind := by
  rw [Backend.nextId, Backend.nextId, h.mint, h.used]

theorem Backend.Alike.useId (h : b.Alike c) (kind : Entity) :
    (b.useId kind).Alike (c.useId kind) where
  wall := h.wall
  mint := h.mint
  used := by rw [Backend.useId, Backend.useId, h.used]
  broken := h.broken
  queue := h.queue

theorem Backend.Alike.withStore (h : b.Alike c) (s t : Store) :
    ({ b with store := s } : Backend).Alike { c with store := t } :=
  ⟨h.wall, h.mint, h.used, h.broken, h.queue⟩

theorem Backend.Alike.withCache (h : b.Alike c) (k l : RuleCache) :
    ({ b with cache := k } : Backend).Alike { c with cache := l } :=
  ⟨h.wall, h.mint, h.used, h.broken, h.queue⟩

theorem Backend.Alike.withLog (h : b.Alike c) (k l : AuditLog) :
    ({ b with log := k } : Backend).Alike { c with log := l } :=
  ⟨h.wall, h.mint, h.used, h.broken, h.queue⟩

/-- Calls that are out of order fail in both states. -/
theorem answered_of_serve (h : b.Agree organization c) (halike : b.Alike c)
    (hserve : Answered organization (b.serve call) (c.serve call)) :
    Answered organization (b.answer call) (c.answer call) := by
  have hout : b.outage? call = c.outage? call := by
    rw [Backend.outage?, Backend.outage?, halike.broken]
  rw [Backend.answer, Backend.answer, hout]
  cases c.outage? call with
  | some fault => exact ⟨rfl, h, halike⟩
  | none => exact hserve

/-- Looking around for the organization shows the same in both states. -/
theorem Call.Looks.answered (hcall : call.Looks organization s x) (h : b.Agree organization c)
    (halike : b.Alike c) (hkeys : b.store.KeysDistinct organization) :
    Answered organization (b.answer call) (c.answer call) := by
  refine answered_of_serve h halike ?_
  have hreply : ∀ {α : Type} {a a' : α}, a = a' →
      Answered organization ((.ok a, b) : Outcome α × Backend) (.ok a', c) := fun heq =>
    ⟨congrArg Except.ok heq, h, halike⟩
  cases call with
  | newId kind => exact hreply (halike.nextId kind)
  | findMember o user =>
      obtain rfl : o = organization := hcall
      exact hreply (h.store.member user)
  | findRole o id =>
      obtain rfl : o = organization := hcall
      exact hreply (h.store.role id)
  | listTeams o user =>
      obtain rfl : o = organization := hcall
      exact hreply (h.store.teams user)
  | listReceivedDelegations o user =>
      obtain rfl : o = organization := hcall
      exact hreply (h.store.receivedDelegations user)
  | listReceivedOverrides o user =>
      obtain rfl : o = organization := hcall
      exact hreply (h.store.receivedOverrides user)
  | listRoles o =>
      obtain rfl : o = organization := hcall
      exact hreply (h.store.listRoles hkeys)
  | findRoleByKey o key =>
      obtain rfl : o = organization := hcall
      exact hreply (h.store.findRoleByKey hkeys key)
  | countMembers o id =>
      obtain rfl : o = organization := hcall
      exact hreply (h.store.countMembers id)
  | countDelegations o id =>
      obtain rfl : o = organization := hcall
      exact hreply (h.store.countDelegations id)
  | findDelegation o id =>
      obtain rfl : o = organization := hcall
      exact hreply (h.store.findDelegation id)
  | listDelegations o user =>
      obtain rfl : o = organization := hcall
      exact hreply (h.store.listDelegations user)
  | findOverride o id =>
      obtain rfl : o = organization := hcall
      exact hreply (h.store.findOverride id)
  | listOverrides o user =>
      obtain rfl : o = organization := hcall
      exact hreply (h.store.listOverrides user)
  | cachedRules o user =>
      obtain rfl : o = organization := hcall
      exact hreply (h.kept user)
  | listEntries q => exact hreply (AuditLog.list_eq_of_entriesOf h.entries hcall)
  | summarize o window =>
      obtain rfl : o = some organization := hcall
      exact hreply (AuditLog.summarize_eq_of_entriesOf h.entries window)
  | cacheRules o user rules ttl =>
      obtain ⟨rfl, -⟩ := hcall
      refine ⟨rfl, ⟨h.store, h.entries, fun user' => ?_⟩, halike.withCache _ _⟩
      rw [Backend.serve, Backend.serve, RuleCache.get_set, RuleCache.get_set, h.kept]
  | appendEntry e =>
      obtain rfl : e.organization = organization := hcall
      rw [Backend.serve, Backend.serve, Backend.appendEntry, Backend.appendEntry, halike.queue.1,
        halike.queue.2]
      refine ⟨rfl, ⟨h.store, ?_, h.kept⟩, (halike.useId .auditEntry).withLog _ _⟩
      rw [AuditLog.entriesOf_append _ rfl, AuditLog.entriesOf_append _ rfl, h.entries]
  | purgeEntries o days =>
      obtain rfl : o = organization := hcall
      refine ⟨congrArg Except.ok ?_, ⟨h.store, ?_, h.kept⟩, halike.withLog _ _⟩
      · refine (AuditLog.purged_eq _ o _).trans ?_
        rw [h.entries, halike.wall]
        exact (AuditLog.purged_eq _ o _).symm
      · refine (AuditLog.entriesOf_purge _ o _).trans ?_
        rw [h.entries, halike.wall]
        exact (AuditLog.entriesOf_purge _ o _).symm
  | _ => exact hcall.elim

/-- Rules are forgotten in both states. -/
theorem Call.Forgets.answered (hcall : call.Forgets organization) (h : b.Agree organization c)
    (halike : b.Alike c) : Answered organization (b.answer call) (c.answer call) := by
  refine answered_of_serve h halike ?_
  cases call with
  | forgetUser o user =>
      obtain rfl : o = organization := hcall
      refine ⟨rfl, ⟨h.store, h.entries, fun user' => ?_⟩, halike.withCache _ _⟩
      rw [Backend.serve, Backend.serve, RuleCache.get_forgetUser, RuleCache.get_forgetUser, h.kept]
  | forgetOrganization o =>
      obtain rfl : o = organization := hcall
      refine ⟨rfl, ⟨h.store, h.entries, fun user' => ?_⟩, halike.withCache _ _⟩
      rw [Backend.serve, Backend.serve, RuleCache.get_forgetOrganization,
        RuleCache.get_forgetOrganization, h.kept]
  | _ => exact hcall.elim

theorem answered_update (h : b.Agree organization c) (halike : b.Alike c) {r r' : Outcome Store}
    (hboth : Outcome.Both (Store.Agree organization) r r') :
    Answered organization (b.update r) (c.update r') := by
  match r, r', hboth with
  | .ok _, .ok _, hstore => exact ⟨rfl, ⟨hstore, h.entries, h.kept⟩, halike.withStore _ _⟩
  | .error _, .error _, rfl => exact ⟨rfl, h, halike⟩

theorem answered_insert (h : b.Agree organization c) (halike : b.Alike c) (kind : Entity)
    {r r' : Outcome Store} (hboth : Outcome.Both (Store.Agree organization) r r') :
    Answered organization (b.insert kind r) (c.insert kind r') := by
  match r, r', hboth with
  | .ok _, .ok _, hstore =>
      exact ⟨rfl, ⟨hstore, h.entries, h.kept⟩, (halike.useId kind).withStore _ _⟩
  | .error _, .error _, rfl => exact ⟨rfl, h, halike⟩

/-- A change for the organization is made in both states, or fails in both. -/
theorem Call.Changes.answered (hcall : call.Changes organization b.situation)
    (h : b.Agree organization c) (halike : b.Alike c) {n : Nat} (hn : call.created ≤ n)
    (hb : b.FreshAhead n) (hc : c.FreshAhead n) (hkeys : b.store.KeysDistinct organization) :
    Answered organization (b.answer call) (c.answer call) := by
  refine answered_of_serve h halike ?_
  cases call with
  | createRole role =>
      exact answered_insert h halike .role (h.store.createRole hkeys hcall.1)
  | updateRole role => exact answered_update h halike (h.store.updateRole hcall)
  | deleteRole o id =>
      obtain rfl : o = organization := hcall
      exact answered_update h halike (h.store.deleteRole id)
  | addGrant o id grant =>
      obtain rfl : o = organization := hcall
      exact answered_update h halike (h.store.addGrant id grant)
  | removeGrant o id permission =>
      obtain rfl : o = organization := hcall
      exact answered_update h halike (h.store.removeGrant id permission)
  | setMemberRole o user role =>
      obtain ⟨rfl, -⟩ := hcall
      have hboth := h.store.setMemberRole user role
      rw [Backend.serve, Backend.serve, Backend.setMemberRole, Backend.setMemberRole]
      cases hs : b.store.setMemberRole o user role with
      | ok r =>
          cases ht : c.store.setMemberRole o user role with
          | ok r' =>
              rw [hs, ht] at hboth
              exact ⟨congrArg Except.ok hboth.1, ⟨hboth.2, h.entries, h.kept⟩, halike.withStore _ _⟩
          | error e' =>
              rw [hs, ht] at hboth
              exact hboth.elim
      | error e =>
          cases ht : c.store.setMemberRole o user role with
          | ok r' =>
              rw [hs, ht] at hboth
              exact hboth.elim
          | error e' =>
              rw [hs, ht] at hboth
              exact ⟨congrArg Except.error hboth, h, halike⟩
  | createDelegation d =>
      obtain ⟨horganization, hid, -⟩ := hcall
      have hnext := nextId_of_situation hid
      refine answered_insert h halike .delegation (h.store.createDelegation horganization ?_ ?_)
      · exact hnext ▸ hb.delegation.next hn
      · exact (hnext.trans (halike.nextId _)) ▸ hc.delegation.next hn
  | saveDelegation d =>
      obtain ⟨stored, hfound, hsame, -⟩ := hcall
      have horganization := hsame.trans (Store.findDelegation_eq_some.mp hfound).2.2
      exact answered_update h halike (h.store.saveDelegation horganization)
  | createOverride o =>
      obtain ⟨horganization, hid⟩ := hcall
      have hnext := nextId_of_situation hid
      refine answered_insert h halike .override (h.store.createOverride horganization ?_ ?_)
      · exact hnext ▸ hb.override.next hn
      · exact (hnext.trans (halike.nextId _)) ▸ hc.override.next hn
  | saveOverride o =>
      obtain ⟨stored, hfound, hsame, -⟩ := hcall
      have horganization := hsame.trans (Store.findOverride_eq_some.mp hfound).2.2
      exact answered_update h halike (h.store.saveOverride horganization)
  | _ => exact hcall.elim

end Calls

/-! ## What calls for one organization leave alone -/

section Others

variable {organization other : OrganizationId} {s : Setting} {x : Situation} {b : Backend}
  {call : Call}

theorem Call.Looks.agree_of_ne (hcall : call.Looks organization s x)
    (hne : other ≠ organization) : (b.answer call).2.Agree other b := by
  have hstore : (b.answer call).2.store.Agree other b.store := by
    rw [(hcall.keeps b).store]
  suffices hrest : (b.answer call).2.log.entriesOf other = b.log.entriesOf other ∧
      ∀ user, (b.answer call).2.cache.get other user = b.cache.get other user from
    ⟨hstore, hrest.1, hrest.2⟩
  rw [Backend.answer]
  cases b.outage? call with
  | some fault => exact ⟨rfl, fun _ => rfl⟩
  | none =>
      cases call with
      | cacheRules o user rules ttl =>
          obtain ⟨rfl, -⟩ := hcall
          refine ⟨rfl, fun user' => ?_⟩
          simp only [Backend.serve, RuleCache.get_set, hne, false_and, and_false, if_false]
      | appendEntry e =>
          obtain rfl : e.organization = organization := hcall
          simp only [Backend.serve, Backend.appendEntry]
          split
          · exact ⟨AuditLog.entriesOf_append_of_ne _ hne.symm, fun _ => rfl⟩
          · split
            · exact ⟨rfl, fun _ => rfl⟩
            · exact ⟨rfl, fun _ => rfl⟩
      | purgeEntries o days =>
          obtain rfl : o = organization := hcall
          exact ⟨AuditLog.entriesOf_purge_of_ne _ hne _, fun _ => rfl⟩
      | _ => first | exact ⟨rfl, fun _ => rfl⟩ | exact hcall.elim

theorem Call.Forgets.agree_of_ne (hcall : call.Forgets organization)
    (hne : other ≠ organization) : (b.answer call).2.Agree other b := by
  rw [Backend.answer]
  cases b.outage? call with
  | some fault => exact .refl
  | none =>
      cases call with
      | forgetUser o user =>
          obtain rfl : o = organization := hcall
          refine ⟨.refl, rfl, fun user' => ?_⟩
          simp only [Backend.serve, RuleCache.get_forgetUser, hne, false_and, if_false]
      | forgetOrganization o =>
          obtain rfl : o = organization := hcall
          refine ⟨.refl, rfl, fun user' => ?_⟩
          simp only [Backend.serve, RuleCache.get_forgetOrganization, hne, if_false]
      | _ => exact hcall.elim

end Others

theorem Call.Changes.agree_of_ne {organization other : OrganizationId} {b : Backend} {call : Call}
    (hcall : call.Changes organization b.situation) {n : Nat} (hn : call.created ≤ n)
    (hfresh : b.FreshAhead n) (hne : other ≠ organization) :
    (b.answer call).2.Agree other b := by
  rcases hcall.answer_cases with ⟨fault, hrun⟩ | ⟨r, d, hrun, hchange⟩
  · rw [hrun]
  · rw [hrun]
    obtain ⟨hlog, hcache, -⟩ := hchange.rest
    exact ⟨hchange.agree_of_ne hfresh hn hne, by rw [hlog], fun _ => by rw [hcache]⟩

/-! ## Tasks -/

/-- What may be changed in one state may be changed in the other. -/
theorem Call.Changes.of_agree {organization : OrganizationId} {b c : Backend} {call : Call}
    (hcall : call.Changes organization b.situation) (h : b.Agree organization c)
    (halike : b.Alike c) : call.Changes organization c.situation := by
  have hnext : c.situation.next = b.situation.next := by
    funext kind
    simp only [Backend.situation, halike.nextId]
  have hrole : ∀ id, c.situation.store.findRole organization id =
      b.situation.store.findRole organization id := fun id => (h.store.role id).symm
  cases call with
  | createRole role => exact ⟨hcall.1, hnext ▸ hcall.2⟩
  | setMemberRole o user role => exact ⟨hcall.1, fun id hid => (hrole id) ▸ hcall.2 id hid⟩
  | createDelegation d =>
      exact ⟨hcall.1, hnext ▸ hcall.2.1, fun id hid => (hrole id) ▸ hcall.2.2 id hid⟩
  | saveDelegation d =>
      obtain ⟨stored, hfound, hrest⟩ := hcall
      exact ⟨stored, (h.store.findDelegation d.id).symm.trans hfound, hrest⟩
  | createOverride o => exact ⟨hcall.1, hnext ▸ hcall.2⟩
  | saveOverride o =>
      obtain ⟨stored, hfound, hrest⟩ := hcall
      exact ⟨stored, (h.store.findOverride o.id).symm.trans hfound, hrest⟩
  | _ => exact hcall

namespace Task

variable {task : Task} {s : Setting} {b c : Backend}

/-- A task leaves everything of other organizations as it is. -/
theorem agree_of_ne {other : OrganizationId} (hfresh : b.FreshAhead task.creations)
    (hne : other ≠ task.organization) : (b.run (task.perform s)).2.Agree other b := by
  have hrun := Program.Meets.run Backend.answer (s := b)
    (I := fun z d => d.situation = z.situation ∧ d.FreshAhead z.spare ∧ d.Agree other b) ?_
    (task.behaves (s := s)) ⟨rfl, hfresh, .refl⟩
  · obtain ⟨z, -, -, -, hagree⟩ := hrun
    exact hagree
  · rintro ⟨x, stale, n⟩ d call ⟨rfl, hd, hagree⟩ hcall
    refine ⟨⟨(d.answer call).2.situation, _, _⟩, ⟨⟨d, rfl, rfl, rfl⟩, rfl, rfl⟩, rfl, ?_⟩
    rcases hcall with hforgets | ⟨-, hlooks | ⟨hchanges, hn⟩⟩
    · exact ⟨(hd.of_keeps (hforgets.keeps d)).mono (Nat.sub_le _ _),
        (hforgets.agree_of_ne hne).trans hagree⟩
    · exact ⟨(hd.of_keeps (hlooks.keeps d)).mono (Nat.sub_le _ _),
        (hlooks.agree_of_ne hne).trans hagree⟩
    · exact ⟨hchanges.freshAhead hn hd, (hchanges.agree_of_ne hn hd hne).trans hagree⟩

/-- A task comes to the same result in states that agree on its organization, and leaves them in
agreement. -/
theorem agree_of_agree (h : b.Agree task.organization c) (halike : b.Alike c)
    (hb : b.FreshAhead task.creations) (hc : c.FreshAhead task.creations)
    (hkeys : b.store.KeysDistinct task.organization) :
    (b.run (task.perform s)).1 = (c.run (task.perform s)).1 ∧
      (b.run (task.perform s)).2.Agree task.organization (c.run (task.perform s)).2 := by
  have hrun := Program.Meets.run_pair Backend.answer (s := b) (t := c)
    (I := fun z d e => d.situation = z.situation ∧ d.Agree task.organization e ∧ d.Alike e ∧
      d.FreshAhead z.spare ∧ e.FreshAhead z.spare ∧ d.store.KeysDistinct task.organization) ?_
    (task.behaves (s := s)) ⟨rfl, h, halike, hb, hc, hkeys⟩
  · obtain ⟨hsame, z, -, -, hagree, -⟩ := hrun
    exact ⟨hsame, hagree⟩
  · rintro ⟨x, stale, n⟩ d e call ⟨rfl, hde, halike, hd, he, hkeys⟩ hcall
    suffices hrest : Answered task.organization (d.answer call) (e.answer call) ∧
        (d.answer call).2.FreshAhead (n - call.created) ∧
        (e.answer call).2.FreshAhead (n - call.created) ∧
        (d.answer call).2.store.KeysDistinct task.organization from
      ⟨hrest.1.reply, ⟨(d.answer call).2.situation, _, _⟩, ⟨⟨d, rfl, rfl, rfl⟩, rfl, rfl⟩, rfl,
        hrest.1.agree, hrest.1.alike, hrest.2⟩
    rcases hcall with hforgets | ⟨-, hlooks | ⟨hchanges, hn⟩⟩
    · exact ⟨hforgets.answered hde halike,
        (hd.of_keeps (hforgets.keeps d)).mono (Nat.sub_le _ _),
        (he.of_keeps (hforgets.keeps e)).mono (Nat.sub_le _ _),
        (hforgets.keeps d).store ▸ hkeys⟩
    · exact ⟨hlooks.answered hde halike hkeys,
        (hd.of_keeps (hlooks.keeps d)).mono (Nat.sub_le _ _),
        (he.of_keeps (hlooks.keeps e)).mono (Nat.sub_le _ _), (hlooks.keeps d).store ▸ hkeys⟩
    · exact ⟨hchanges.answered hde halike hn hd he hkeys, hchanges.freshAhead hn hd,
        (hchanges.of_agree hde halike).freshAhead hn he, hchanges.keysDistinct hkeys⟩

/-- What a task does for an organization depends only on what belongs to it, and leaves everything
that belongs to another as it is. -/
theorem noninterference (h : b.Agree task.organization c) (halike : b.Alike c)
    (hb : b.FreshAhead task.creations) (hc : c.FreshAhead task.creations)
    (hkeys : b.store.KeysDistinct task.organization) :
    (b.run (task.perform s)).1 = (c.run (task.perform s)).1 ∧
      (b.run (task.perform s)).2.Agree task.organization (c.run (task.perform s)).2 ∧
      ∀ other, other ≠ task.organization →
        (b.run (task.perform s)).2.Agree other b ∧ (c.run (task.perform s)).2.Agree other c := by
  obtain ⟨hsame, hagree⟩ := agree_of_agree h halike hb hc hkeys
  exact ⟨hsame, hagree, fun other hne => ⟨agree_of_ne hb hne, agree_of_ne hc hne⟩⟩

end Task

namespace Sample

/-- Another organization. -/
def neighbour : OrganizationId := ⟨⟨2⟩⟩

/-- The rules of the owner are remembered, and identifiers above 10 are given out. -/
def alone : Backend :=
  { backend with
    cache := backend.cache.set organization owner (store.rules organization owner ⟨0⟩) 300
    used := fun _ => 10 }

def neighboursRole : Role where
  id := ⟨⟨5⟩⟩
  organization := neighbour
  key := ⟨"auditor", by decide⟩
  name := "Auditor"
  priority := ⟨1000, by decide⟩
  isSystem := false
  isEditable := true
  grants := []

/-- The same with a role of a neighbour, and with rules by which the owner may do nothing there. -/
def housed : Backend :=
  { alone with
    store := store.putRole neighboursRole
    cache := alone.cache.set neighbour owner ⟨neighbour, []⟩ 300 }

def remembering : Setting := { now := ⟨0⟩, cacheTtl := some 300 }

/-- The owner makes a role with the key that the neighbour's role has. -/
def founding : Task :=
  .administration (actor owner) (.createRole ⟨"auditor", "Auditor", 10, []⟩)

theorem agree_alone_housed : alone.Agree organization housed where
  store := by
    have hfree : store.roles.find? neighboursRole.id = none := rfl
    have hagree : (store.putRole neighboursRole).Agree organization store :=
      Store.agree_putRole_of_ne (by decide) fun r hr => by
        rw [hfree] at hr
        cases hr
    exact hagree.symm
  entries := rfl
  kept user := by
    rw [housed, RuleCache.get_set]
    simp [show organization ≠ neighbour by decide]

theorem alike_alone_housed : alone.Alike housed := ⟨rfl, rfl, rfl, rfl, rfl, rfl⟩

theorem keysDistinct_store : store.KeysDistinct organization := by
  unfold Store.KeysDistinct
  decide

end Sample

open Sample in
/-- The owner's new role is made with or without the neighbour, who is not affected. -/
theorem founding_beside_neighbour :
    alone.Agree organization housed ∧
      (alone.run (founding.perform remembering)).1.isOk = true ∧
      (alone.run (founding.perform remembering)).1 =
        (housed.run (founding.perform remembering)).1 ∧
      (alone.run (founding.perform remembering)).2.Agree organization
        (housed.run (founding.perform remembering)).2 ∧
      (housed.run (founding.perform remembering)).2.Agree neighbour housed := by
  have hfresh : alone.FreshAhead 1 := .one rfl rfl rfl
  have hfresh' : housed.FreshAhead 1 := .one rfl rfl rfl
  have hagree : alone.Agree founding.organization housed := agree_alone_housed
  obtain ⟨hsame, hafter, hothers⟩ := Task.noninterference (s := remembering) hagree
    alike_alone_housed hfresh hfresh' keysDistinct_store
  have hsucceeds : (alone.run (founding.perform remembering)).1.isOk = true := by decide +kernel
  exact ⟨hagree, hsucceeds, hsame, hafter, (hothers neighbour (by decide)).2⟩

end AccessControl

import AccessControl.Proofs.Administration.Operation
import AccessControl.Proofs.OwnerReassignment

/-!
# Reading the audit log by pages

A listing is in one order whatever part of it is asked for: newest first, and of one time in the
order in which the entries were appended.  Each page is a stretch of that one list, from its offset
on and as long as the page.  To list entries leaves the log alone, so the pages of a reading that
goes on up to an empty page are stretches of the same list, one behind the other, and together they
are all of it.

The query keeps to the actor's organization, whichever it names itself.
-/

namespace AccessControl

open Service Backend

/-! ## The order of a listing -/

/-- The entries newest first, those of one time in the order in which they are given. -/
structure ListsNewestFirst (listed entries : List AuditEntry) : Prop where
  perm : listed.Perm entries
  newestFirst : listed.Pairwise fun e later => later.createdAt ≤ e.createdAt
  stable : ∀ t, listed.filter (·.createdAt = t) = entries.filter (·.createdAt = t)

namespace AuditLog

/-- How a listing compares two entries. -/
def comesFirst (a b : AuditEntry) : Bool := b.createdAt ≤ a.createdAt

theorem comesFirst_trans (a b c : AuditEntry) (hab : comesFirst a b) (hbc : comesFirst b c) :
    comesFirst a c := by
  simp only [comesFirst, decide_eq_true_eq, Instant.le_iff] at *
  omega

theorem comesFirst_total (a b : AuditEntry) : comesFirst a b || comesFirst b a := by
  simp only [comesFirst, Bool.or_eq_true, decide_eq_true_eq, Instant.le_iff]
  omega

theorem newestFirst_eq_mergeSort (entries : List AuditEntry) :
    newestFirst entries = entries.mergeSort comesFirst := rfl

theorem lists_newestFirst (entries : List AuditEntry) :
    ListsNewestFirst (newestFirst entries) entries where
  perm := List.mergeSort_perm _ _
  newestFirst :=
    (List.pairwise_mergeSort comesFirst_trans comesFirst_total entries).imp of_decide_eq_true
  stable t := by
    rw [newestFirst_eq_mergeSort, filter_mergeSort comesFirst_trans comesFirst_total]
    -- Entries of one time are sorted as they stand.
    refine List.mergeSort_of_pairwise (List.pairwise_of_forall_mem_list fun a ha b hb => ?_)
    have ha' : a.createdAt = t := by simpa using (List.mem_filter.mp ha).2
    have hb' : b.createdAt = t := by simpa using (List.mem_filter.mp hb).2
    rw [comesFirst, ha', hb']
    exact decide_eq_true (Int.le_refl _)

end AuditLog

/-! ## One page -/

namespace Administration

variable {b c : Backend} {s : Setting} {actor : Actor} {q : AuditQuery} {size offset : Nat}

/-- Whoever is let through leaves the log as it is. -/
theorem log_of_run_requireOnLog {action : Action}
    (h : b.run (requireOnLog s actor action) = (.ok (), c)) : c.log = b.log := by
  obtain ⟨e, d, hexplain, hverdict⟩ := exists_of_run_bind h
  have hlog : d.log = b.log := by
    have hsilent : Silent (Authorization.explain s actor.organization (some actor.user) action
        (.ofType .auditLog)) := Authorization.silent_explain _ action _
    have hkept := hsilent.keepsLog b
    rw [hexplain] at hkept
    exact hkept.log
  split at hverdict
  · obtain rfl := (Prod.mk.inj hverdict).2
    exact hlog
  · -- A refusal never comes to a result.
    obtain ⟨_, _, -, hfail⟩ := exists_of_run_bind hverdict
    cases hfail

/-- The entries of the actor's organization that pass the filters of the query. -/
def matching (l : AuditLog) (actor : Actor) (q : AuditQuery) : List AuditEntry :=
  l.entries.filter fun e =>
    e.organization = actor.organization && { q with organization := none }.selects e

/-- The query for one page. -/
def pageAt (q : AuditQuery) (size offset : Nat) : AuditQuery := { q with limit := size, offset }

/-- A page is a stretch of the one list of what matches. -/
theorem list_pageQuery (l : AuditLog) (hpos : 1 ≤ size) (hmax : size ≤ maxPageSize) :
    l.list (pageQuery actor (pageAt q size offset)) =
      ((AuditLog.newestFirst (matching l actor q)).drop offset).take size := by
  have hselects : (pageQuery actor (pageAt q size offset)).selects = fun e =>
      e.organization = actor.organization && { q with organization := none }.selects e := by
    funext e
    rw [Bool.eq_iff_iff, Bool.and_eq_true, AuditQuery.selects_iff, AuditQuery.selects_iff]
    simp [pageQuery, pageAt]
  have hlimit : max 1 (min size maxPageSize) = size := by omega
  rw [AuditLog.list, hselects]
  simp only [pageQuery, pageAt, hlimit, matching]

theorem page_of_run {es : List AuditEntry} (hpos : 1 ≤ size) (hmax : size ≤ maxPageSize)
    (h : b.run (listEntries s actor (pageAt q size offset)) = (.ok es, c)) :
    c.log = b.log ∧
      es = ((AuditLog.newestFirst (matching b.log actor q)).drop offset).take size := by
  obtain ⟨_, d, hrequire, hlist⟩ := exists_of_run_bind h
  have hlog : d.log = b.log := log_of_run_requireOnLog hrequire
  have hserve : d.serve (.listEntries (pageQuery actor (pageAt q size offset))) =
      (.ok (d.log.list (pageQuery actor (pageAt q size offset))), d) := rfl
  rcases run_ask_cases d _ hserve with ⟨fault, hask⟩ | hask
  · cases hask.symm.trans hlist
  · obtain ⟨hes, rfl⟩ := Prod.mk.inj (hask.symm.trans hlist)
    obtain rfl := Except.ok.inj hes
    exact ⟨hlog, by rw [hlog, list_pageQuery b.log hpos hmax]⟩

/-- Whoever may read the log is given a page of it. -/
theorem finishes_listEntries (hworking : b.broken = []) (hc : Calm s b c)
    (hmay : MayOnLog b s actor .read) (q : AuditQuery) :
    Finishes c (listEntries s actor q) fun _ d => Calm s b d := by
  refine (Authorization.finishes_require hworking hc hmay).bind fun _ d hd => ?_
  refine ⟨d.log.list (pageQuery actor q), d, ?_, hd⟩
  exact Authorization.run_ask_of_working (hd.broken.trans hworking) (.listEntries _)

/-! ## All pages -/

/-- The entries that come of reading page by page from an offset on, up to a page that is empty.
The pages may be read at different times. -/
inductive ReadsPages (actor : Actor) (q : AuditQuery) (size : Nat) :
    Nat → Backend → List AuditEntry → Prop
  | last {s : Setting} {offset : Nat} {b c : Backend}
      (h : b.run (listEntries s actor (pageAt q size offset)) = (.ok [], c)) :
      ReadsPages actor q size offset b []
  | page {s : Setting} {offset : Nat} {b c : Backend} {es rest : List AuditEntry}
      (h : b.run (listEntries s actor (pageAt q size offset)) = (.ok es, c)) (hne : es ≠ [])
      (hrest : ReadsPages actor q size (offset + size) c rest) :
      ReadsPages actor q size offset b (es ++ rest)

/-- A reading comes to what is left of the list behind the offset. -/
theorem ReadsPages.eq_drop {es : List AuditEntry} (hpos : 1 ≤ size) (hmax : size ≤ maxPageSize)
    (h : ReadsPages actor q size offset b es) :
    es = (AuditLog.newestFirst (matching b.log actor q)).drop offset := by
  induction h with
  | last h =>
      obtain ⟨-, hpage⟩ := page_of_run hpos hmax h
      rcases List.take_eq_nil_iff.mp hpage.symm with hzero | hnil
      · omega
      · exact hnil.symm
  | page h hne hrest ih =>
      obtain ⟨hlog, rfl⟩ := page_of_run hpos hmax h
      rw [ih, hlog, ← List.drop_drop, List.take_append_drop]

/-- Where every page is given the reading comes to an end, as the list does. -/
theorem exists_readsPages (hpos : 1 ≤ size) (hmax : size ≤ maxPageSize) (hworking : b.broken = [])
    (hmay : MayOnLog b s actor .read) {c : Backend} (hc : Calm s b c) (offset : Nat) :
    ∃ es, ReadsPages actor q size offset c es := by
  obtain ⟨es, d, hrun, hd⟩ := finishes_listEntries hworking hc hmay (pageAt q size offset)
  obtain ⟨hlog, hes⟩ := page_of_run hpos hmax hrun
  by_cases hnil : es = []
  · exact ⟨[], .last (hnil ▸ hrun)⟩
  · have hwithin : offset < (AuditLog.newestFirst (matching c.log actor q)).length := by
      by_contra hbeyond
      rw [hes, List.drop_of_length_le (Nat.not_lt.mp hbeyond), List.take_nil] at hnil
      exact hnil rfl
    obtain ⟨rest, hrest⟩ := exists_readsPages hpos hmax hworking hmay hd (offset + size)
    exact ⟨es ++ rest, .page hrun hnil hrest⟩
termination_by (AuditLog.newestFirst (matching c.log actor q)).length - offset
decreasing_by
  rw [hlog]
  omega

/-- To read the log page by page loses and repeats nothing.  Whatever organization the query names,
the pages together are all entries of the actor's organization that it selects, newest first and
those of one time in the order in which they were appended.  Where no call is out of order, whoever
may read the log is given page after page and comes to the end of it. -/
theorem pages_list_matching_once (actor : Actor) (q : AuditQuery) (hpos : 1 ≤ size)
    (hmax : size ≤ maxPageSize) :
    (∀ b es, ReadsPages actor q size 0 b es → ListsNewestFirst es (matching b.log actor q)) ∧
      ∀ s b, b.broken = [] → MayOnLog b s actor .read → ∃ es, ReadsPages actor q size 0 b es := by
  refine ⟨fun b es h => ?_, fun s b hworking hmay => ?_⟩
  · rw [h.eq_drop hpos hmax, List.drop_zero]
    exact AuditLog.lists_newestFirst _
  · exact exists_readsPages hpos hmax hworking hmay .refl 0

end Administration

namespace Sample

def logged (id : Nat) (organization : OrganizationId) (user : Option UserId) (action : AuditAction)
    (permitted : Bool) (createdAt : Instant) : AuditEntry where
  organization := organization
  actor := user
  action := action.name
  resourceType := some ResourceType.role.name
  resourceId := none
  permitted := permitted
  context := []
  ipAddress := none
  userAgent := none
  id := ⟨⟨id⟩⟩
  createdAt := createdAt

/-- Two entries of one time, with one of another organization between them. -/
def journal : AuditLog where
  entries := [logged 1 organization owner .roleCreated true ⟨1⟩,
    logged 2 organization none .roleUpdated true ⟨2⟩,
    logged 3 ⟨⟨2⟩⟩ admin .roleUpdated true ⟨2⟩,
    logged 4 organization owner .roleUpdated false ⟨2⟩]

/-- Three more changes of roles, the last of them at time 4. -/
def longerJournal : AuditLog where
  entries := journal.entries ++ [logged 5 organization admin .roleUpdated true ⟨2⟩,
    logged 6 organization owner .roleUpdated true ⟨3⟩,
    logged 7 organization owner .roleUpdated true ⟨4⟩]

/-- The changes of roles that were permitted before time 4, in another organization. -/
def changesBefore : AuditQuery where
  organization := some ⟨⟨2⟩⟩
  action := some AuditAction.roleUpdated.name
  permitted := some true
  window := ⟨some ⟨1⟩, some ⟨4⟩⟩
  limit := 7

end Sample

open Sample Administration in
/-- The owner asks for the other organization, and reads of the own one what passes the filters, by
pages of two. -/
theorem owner_reads_journal :
    ∃ es, ReadsPages (actor owner) changesBefore 2 0 { backend with log := longerJournal } es ∧
      ListsNewestFirst es (matching longerJournal (actor owner) changesBefore) ∧ es.length = 3 ∧
      (es.filter (·.createdAt = ⟨2⟩)).map (·.id) = [⟨⟨2⟩⟩, ⟨⟨5⟩⟩] ∧
      (es.filter (·.createdAt = ⟨3⟩)).map (·.id) = [⟨⟨6⟩⟩] := by
  obtain ⟨hlists, hreads⟩ := pages_list_matching_once (actor owner) changesBefore
    (by decide : 1 ≤ 2) (by decide)
  have hmay :
      MayOnLog { backend with log := longerJournal } { now := ⟨0⟩ } (actor owner) .read := by
    rw [MayOnLog]
    decide +kernel
  obtain ⟨es, hes⟩ := hreads _ _ rfl hmay
  have hlist := hlists _ es hes
  have hlength : es.length = 3 := hlist.perm.length_eq.trans (by decide +kernel)
  exact ⟨es, hes, hlist, hlength, by rw [hlist.stable]; decide +kernel,
    by rw [hlist.stable]; decide +kernel⟩

end AccessControl

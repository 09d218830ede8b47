import AccessControl.Proofs.Paging
import Mathlib.Data.List.Sort
import Mathlib.Data.Set.Card

/-!
# What a summary counts

A summary is made in one pass over the entries, with a tally that grows by one entry at a time.
What the tally has counted is said of the entries that it has seen, so a summary counts exactly what
it was made from, and there is only one summary that does.  The order of the entries plays no part.

Numbers of entries add up when a span of time is cut in two.  Numbers of different actors do not, as
an actor may have acted in both parts: those are counted twice.
-/

namespace AccessControl

/-! ## Tables of labels -/

/-- The number beside a label, zero for a label that is not in the table. -/
def timesIn (table : List (String × Nat)) (label : String) : Nat := (table.lookup label).getD 0

/-- The table has the labels that occur, in ascending order, and beside each how often it occurs. -/
structure Tabulates (table : List (String × Nat)) (times : String → Nat) : Prop where
  ascending : table.Pairwise fun a b => a.1 < b.1
  lookup : ∀ l, table.lookup l = if times l = 0 then none else some (times l)

theorem lookup_cons_eq_ite {table : List (String × Nat)} {k l : String} {n : Nat} :
    ((k, n) :: table).lookup l = if l = k then some n else table.lookup l := by
  by_cases h : l = k
  · simp [h]
  · simp [List.lookup_cons, h, beq_eq_false_iff_ne.mpr h]

theorem lookup_eq_none_of_forall_lt {table : List (String × Nat)} {label : String}
    (h : ∀ p ∈ table, label < p.1) : table.lookup label = none := by
  rw [List.lookup_eq_none_iff]
  intro p hp
  simpa using fun heq : label = p.1 => String.lt_irrefl _ (heq ▸ h p hp)

theorem mem_iff_lookup_eq_some {table : List (String × Nat)}
    (h : table.Pairwise fun a b => a.1 < b.1) {label : String} {n : Nat} :
    (label, n) ∈ table ↔ table.lookup label = some n := by
  induction table with
  | nil => simp
  | cons p table ih =>
    obtain ⟨l, m⟩ := p
    obtain ⟨hl, htable⟩ := List.pairwise_cons.mp h
    by_cases heq : label = l
    · subst heq
      have hnot : (label, n) ∉ table := fun hmem => String.lt_irrefl _ (hl (label, n) hmem)
      simp [hnot, eq_comm]
    · simp [lookup_cons_eq_ite, heq, ih htable]

section countLabel

variable {table : List (String × Nat)} {label : String}

theorem fst_of_mem_countLabel {p : String × Nat} (h : p ∈ countLabel label table) :
    p.1 = label ∨ ∃ q ∈ table, q.1 = p.1 := by
  induction table with
  | nil => exact .inl (List.mem_singleton.mp h ▸ rfl)
  | cons q table ih =>
    obtain ⟨l, n⟩ := q
    rw [countLabel] at h
    split at h
    · rcases List.mem_cons.mp h with rfl | h
      · exact .inl rfl
      · exact .inr ⟨p, h, rfl⟩
    · split at h
      · rcases List.mem_cons.mp h with rfl | h
        · exact .inr ⟨(l, n), List.mem_cons_self, rfl⟩
        · exact .inr ⟨p, List.mem_cons_of_mem _ h, rfl⟩
      · rcases List.mem_cons.mp h with rfl | h
        · exact .inr ⟨(l, n), List.mem_cons_self, rfl⟩
        · exact (ih h).imp_right fun ⟨q, hq, heq⟩ => ⟨q, List.mem_cons_of_mem _ hq, heq⟩

theorem pairwise_countLabel (h : table.Pairwise fun a b => a.1 < b.1) :
    (countLabel label table).Pairwise fun a b => a.1 < b.1 := by
  induction table with
  | nil => simp [countLabel]
  | cons p table ih =>
    obtain ⟨l, n⟩ := p
    obtain ⟨hl, htable⟩ := List.pairwise_cons.mp h
    rw [countLabel]
    split
    · rename_i hlt
      refine List.pairwise_cons.mpr ⟨fun q hq => ?_, h⟩
      rcases List.mem_cons.mp hq with rfl | hq
      · exact hlt
      · exact String.lt_trans hlt (hl q hq)
    · split
      · exact List.pairwise_cons.mpr ⟨hl, htable⟩
      · rename_i hlt hne
        refine List.pairwise_cons.mpr ⟨fun q hq => ?_, ih htable⟩
        rcases fst_of_mem_countLabel hq with heq | ⟨q', hq', heq⟩
        · rw [heq]
          refine Decidable.byContradiction fun hnot => hne ?_
          exact String.le_antisymm (String.not_lt.mp hnot) (String.not_lt.mp hlt)
        · exact heq ▸ hl q' hq'

theorem lookup_countLabel (h : table.Pairwise fun a b => a.1 < b.1) (l : String) :
    (countLabel label table).lookup l =
      if l = label then some (timesIn table label + 1) else table.lookup l := by
  induction table with
  | nil => simp [countLabel, timesIn, lookup_cons_eq_ite]
  | cons p table ih =>
    obtain ⟨k, n⟩ := p
    obtain ⟨hk, htable⟩ := List.pairwise_cons.mp h
    rw [countLabel]
    split
    · rename_i hlt
      have hnone : ((k, n) :: table).lookup label = none :=
        lookup_eq_none_of_forall_lt fun q hq => by
          rcases List.mem_cons.mp hq with rfl | hq
          · exact hlt
          · exact String.lt_trans hlt (hk q hq)
      rw [timesIn, hnone, lookup_cons_eq_ite, Option.getD_none]
    · split
      · rename_i heq
        subst heq
        by_cases heq : l = label <;> simp [timesIn, lookup_cons_eq_ite, heq]
      · rename_i hne
        have htimes : timesIn ((k, n) :: table) label = timesIn table label := by
          rw [timesIn, timesIn, lookup_cons_eq_ite, if_neg hne]
        rw [htimes, lookup_cons_eq_ite, lookup_cons_eq_ite, ih htable]
        by_cases heq : l = k
        · simp [heq, Ne.symm hne]
        · simp [heq]

theorem sum_countLabel : ((countLabel label table).map (·.2)).sum = (table.map (·.2)).sum + 1 := by
  induction table with
  | nil => rfl
  | cons p table ih =>
    obtain ⟨l, n⟩ := p
    rw [countLabel]
    split
    · simp [Nat.add_comm]
    · split
      · simp only [List.map_cons, List.sum_cons]
        omega
      · simp only [List.map_cons, List.sum_cons, ih]
        omega

end countLabel

namespace Tabulates

variable {table table' : List (String × Nat)} {times : String → Nat}

theorem nil : Tabulates [] fun _ => 0 := ⟨.nil, fun _ => rfl⟩

theorem timesIn_eq (h : Tabulates table times) (l : String) : timesIn table l = times l := by
  rw [timesIn, h.lookup]
  split
  · rename_i hzero
    exact hzero.symm
  · rfl

/-- To count a label once more adds one to its number and leaves the others. -/
theorem countLabel (h : Tabulates table times) (label : String) :
    Tabulates (AccessControl.countLabel label table)
      fun l => times l + if l = label then 1 else 0 where
  ascending := pairwise_countLabel h.ascending
  lookup l := by
    rw [lookup_countLabel h.ascending, h.timesIn_eq]
    by_cases heq : l = label
    · simp [heq]
    · simp [heq, h.lookup]

/-- There is only one table of the same numbers. -/
theorem unique (h : Tabulates table times) (h' : Tabulates table' times) : table = table' := by
  have hnodup : ∀ {t : List (String × Nat)}, t.Pairwise (fun a b => a.1 < b.1) → t.Nodup :=
    fun ht => ht.imp fun {a b} hlt (heq : a = b) => String.lt_irrefl _ (heq ▸ hlt)
  have hperm : table.Perm table' := by
    refine (List.perm_ext_iff_of_nodup (hnodup h.ascending) (hnodup h'.ascending)).mpr ?_
    rintro ⟨l, n⟩
    rw [mem_iff_lookup_eq_some h.ascending, mem_iff_lookup_eq_some h'.ascending, h.lookup,
      h'.lookup]
  exact hperm.eq_of_pairwise (fun a b _ _ hab hba => absurd (String.lt_trans hab hba)
    (String.lt_irrefl _)) h.ascending h'.ascending

end Tabulates

/-! ## One entry after another -/

/-- The users who acted in the entries. -/
def actorsOf (entries : List AuditEntry) : Set UserId := {u | ∃ e ∈ entries, e.actor = some u}

/-- The tally has counted these entries. -/
structure AuditTally.Counts (t : AuditTally) (entries : List AuditEntry) : Prop where
  total : t.total = entries.length
  permitted : t.permitted = entries.countP (·.permitted)
  denied : t.denied = entries.countP (!·.permitted)
  actorsNodup : t.actors.Nodup
  mem_actors : ∀ u, u ∈ t.actors ↔ u ∈ actorsOf entries
  byAction : Tabulates t.byAction fun l => entries.countP (·.action = l)
  sum_byAction : (t.byAction.map (·.2)).sum = entries.length
  byResourceType : Tabulates t.byResourceType fun l => entries.countP (·.resourceType = some l)

/-- The summary counts these entries. -/
structure AuditSummary.Counts (s : AuditSummary) (entries : List AuditEntry) : Prop where
  total : s.total = entries.length
  permitted : s.permitted = entries.countP (·.permitted)
  denied : s.denied = entries.countP (!·.permitted)
  total_eq_add : s.total = s.permitted + s.denied
  denialRate : s.denialRate = AccessControl.denialRate s.denied s.total
  distinctActors : s.distinctActors = (actorsOf entries).ncard
  byAction : Tabulates s.byAction fun l => entries.countP (·.action = l)
  total_eq_sum : s.total = (s.byAction.map (·.2)).sum
  byResourceType : Tabulates s.byResourceType fun l => entries.countP (·.resourceType = some l)

namespace AuditTally

variable {t : AuditTally} {seen : List AuditEntry}

theorem counts_nil : ({} : AuditTally).Counts [] where
  total := rfl
  permitted := rfl
  denied := rfl
  actorsNodup := .nil
  mem_actors u := by simp [actorsOf]
  byAction := .nil
  sum_byAction := rfl
  byResourceType := .nil

theorem Counts.enter (h : t.Counts seen) (e : AuditEntry) : (t.enter e).Counts (seen ++ [e]) where
  total := by simp [AuditTally.enter, h.total]
  permitted := by cases he : e.permitted <;> simp [AuditTally.enter, h.permitted, he]
  denied := by cases he : e.permitted <;> simp [AuditTally.enter, h.denied, he]
  actorsNodup := by
    cases he : e.actor with
    | none => simpa [AuditTally.enter, he] using h.actorsNodup
    | some u => simpa [AuditTally.enter, he] using h.actorsNodup.insert
  mem_actors u := by
    have hmem : u ∈ actorsOf (seen ++ [e]) ↔ u ∈ actorsOf seen ∨ e.actor = some u := by
      simp [actorsOf, or_and_right, exists_or]
    rw [hmem, ← h.mem_actors]
    cases he : e.actor with
    | none => simp [AuditTally.enter, he]
    | some v =>
        simp only [AuditTally.enter, he, List.mem_insert_iff, Option.some.injEq]
        rw [or_comm, @eq_comm _ u]
  byAction := by
    have htimes : (fun l => (seen ++ [e]).countP (·.action = l)) =
        fun l => seen.countP (·.action = l) + if l = e.action then 1 else 0 := by
      funext l
      simp [List.countP_singleton, eq_comm]
    exact htimes ▸ h.byAction.countLabel e.action
  sum_byAction := by simp [AuditTally.enter, sum_countLabel, h.sum_byAction]
  byResourceType := by
    cases he : e.resourceType with
    | none =>
        have htimes : (fun l => (seen ++ [e]).countP (·.resourceType = some l)) =
            fun l => seen.countP (·.resourceType = some l) := by
          funext l
          simp [he]
        simpa [AuditTally.enter, he, htimes] using h.byResourceType
    | some r =>
        have htimes : (fun l => (seen ++ [e]).countP (·.resourceType = some l)) =
            fun l => seen.countP (·.resourceType = some l) + if l = r then 1 else 0 := by
          funext l
          simp [List.countP_singleton, he, eq_comm]
        have hentered : (t.enter e).byResourceType = countLabel r t.byResourceType := by
          simp [AuditTally.enter, he]
        exact hentered ▸ htimes ▸ h.byResourceType.countLabel r

theorem Counts.foldl_enter (h : t.Counts seen) (entries : List AuditEntry) :
    (entries.foldl AuditTally.enter t).Counts (seen ++ entries) := by
  induction entries generalizing t seen with
  | nil => simpa using h
  | cons e entries ih => simpa using ih (h.enter e)

theorem Counts.length_actors (h : t.Counts seen) : t.actors.length = (actorsOf seen).ncard := by
  have hset : actorsOf seen = (t.actors.toFinset : Set UserId) := by
    ext u
    simp [h.mem_actors]
  rw [hset, Set.ncard_coe_finset, List.toFinset_card_of_nodup h.actorsNodup]

theorem Counts.summary (h : t.Counts seen) : t.summary.Counts seen where
  total := h.total
  permitted := h.permitted
  denied := h.denied
  total_eq_add := by
    have hsplit : seen.length = seen.countP (·.permitted) + seen.countP (!·.permitted) := by
      simpa using List.length_eq_countP_add_countP (l := seen) (·.permitted)
    simpa [AuditTally.summary, h.total, h.permitted, h.denied] using hsplit
  denialRate := rfl
  distinctActors := h.length_actors
  byAction := h.byAction
  total_eq_sum := h.total.trans h.sum_byAction.symm
  byResourceType := h.byResourceType

end AuditTally

namespace AuditSummary

variable {s s' : AuditSummary} {entries entries' : List AuditEntry}

theorem counts_ofEntries (entries : List AuditEntry) : (ofEntries entries).Counts entries :=
  (AuditTally.counts_nil.foldl_enter entries).summary

/-- There is only one summary that counts the entries. -/
theorem Counts.unique (h : s.Counts entries) (h' : s'.Counts entries) : s = s' := by
  have htotal := h.total.trans h'.total.symm
  have hpermitted := h.permitted.trans h'.permitted.symm
  have hdenied := h.denied.trans h'.denied.symm
  have hrate : s.denialRate = s'.denialRate := by
    rw [h.denialRate, h'.denialRate, htotal, hdenied]
  have hactors := h.distinctActors.trans h'.distinctActors.symm
  have hbyAction := h.byAction.unique h'.byAction
  have hbyResourceType := h.byResourceType.unique h'.byResourceType
  cases s
  cases s'
  simp_all

/-- The order of the entries plays no part. -/
theorem Counts.perm (h : s.Counts entries) (hperm : entries.Perm entries') :
    s.Counts entries' where
  total := h.total.trans hperm.length_eq
  permitted := h.permitted.trans (hperm.countP_eq _)
  denied := h.denied.trans (hperm.countP_eq _)
  total_eq_add := h.total_eq_add
  denialRate := h.denialRate
  distinctActors := by
    have hactors : actorsOf entries = actorsOf entries' := by
      simp only [actorsOf, hperm.mem_iff]
    exact hactors ▸ h.distinctActors
  byAction := by simpa only [hperm.countP_eq] using h.byAction
  total_eq_sum := h.total_eq_sum
  byResourceType := by simpa only [hperm.countP_eq] using h.byResourceType

theorem ofEntries_eq_of_perm (hperm : entries.Perm entries') :
    ofEntries entries = ofEntries entries' :=
  ((counts_ofEntries entries).perm hperm).unique (counts_ofEntries entries')

end AuditSummary

/-! ## A span of time in two parts -/

/-- The numbers of entries are the sums of those of the two parts, and the actors are those of the
two parts together. -/
structure AuditSummary.Sums (whole left right : AuditSummary) (both : Set UserId) : Prop where
  total : whole.total = left.total + right.total
  permitted : whole.permitted = left.permitted + right.permitted
  denied : whole.denied = left.denied + right.denied
  byAction : ∀ l, timesIn whole.byAction l = timesIn left.byAction l + timesIn right.byAction l
  byResourceType : ∀ l, timesIn whole.byResourceType l =
    timesIn left.byResourceType l + timesIn right.byResourceType l
  distinctActors : whole.distinctActors + both.ncard = left.distinctActors + right.distinctActors

theorem finite_actorsOf (entries : List AuditEntry) : (actorsOf entries).Finite := by
  refine (entries.filterMap (·.actor)).finite_toSet.subset fun u hu => ?_
  exact List.mem_filterMap.mpr hu

theorem AuditSummary.sums_append (front back : List AuditEntry) :
    (ofEntries (front ++ back)).Sums (ofEntries front) (ofEntries back)
      (actorsOf front ∩ actorsOf back) := by
  have h := counts_ofEntries (front ++ back)
  have hfront := counts_ofEntries front
  have hback := counts_ofEntries back
  refine ⟨?_, ?_, ?_, fun l => ?_, fun l => ?_, ?_⟩
  · rw [h.total, hfront.total, hback.total, List.length_append]
  · rw [h.permitted, hfront.permitted, hback.permitted, List.countP_append]
  · rw [h.denied, hfront.denied, hback.denied, List.countP_append]
  · rw [h.byAction.timesIn_eq, hfront.byAction.timesIn_eq, hback.byAction.timesIn_eq,
      List.countP_append]
  · rw [h.byResourceType.timesIn_eq, hfront.byResourceType.timesIn_eq,
      hback.byResourceType.timesIn_eq, List.countP_append]
  · have hactors : actorsOf (front ++ back) = actorsOf front ∪ actorsOf back := by
      ext u
      simp [actorsOf, or_and_right, exists_or]
    rw [h.distinctActors, hfront.distinctActors, hback.distinctActors, hactors,
      Set.ncard_union_add_ncard_inter _ _ (finite_actorsOf front) (finite_actorsOf back)]

namespace AuditLog

variable {l : AuditLog} {organization : Option OrganizationId} {a b c : Instant}

/-- The entries of the organization, or of all of them, from a span of time. -/
def within (l : AuditLog) (organization : Option OrganizationId) (window : AuditWindow) :
    List AuditEntry :=
  l.entries.filter fun e => organization.all (e.organization = ·) && window.contains e.createdAt

theorem summarize_eq_ofEntries (l : AuditLog) (organization : Option OrganizationId)
    (window : AuditWindow) :
    l.summarize organization window = .ofEntries (l.within organization window) := rfl

/-- What lies in a span of time lies in one of its two parts, and only in one. -/
theorem within_perm_append (hab : a ≤ b) (hbc : b ≤ c) :
    (l.within organization ⟨a, c⟩).Perm
      (l.within organization ⟨a, b⟩ ++ l.within organization ⟨b, c⟩) := by
  have hfront : (l.within organization ⟨a, c⟩).filter (·.createdAt < b) =
      l.within organization ⟨a, b⟩ := by
    rw [within, within, List.filter_filter]
    refine List.filter_congr fun e _ => ?_
    simp only [AuditWindow.contains, Instant.le_iff, Instant.lt_iff] at *
    grind
  have hback : (l.within organization ⟨a, c⟩).filter (fun e => !e.createdAt < b) =
      l.within organization ⟨b, c⟩ := by
    rw [within, within, List.filter_filter]
    refine List.filter_congr fun e _ => ?_
    simp only [AuditWindow.contains, Instant.le_iff, Instant.lt_iff] at *
    grind
  rw [← hfront, ← hback]
  exact (List.filter_append_perm _ _).symm

/-- A listing with no other filter has the entries that a summary counts. -/
theorem list_perm_within {window : AuditWindow} {limit : Nat}
    (h : (l.within organization window).length ≤ limit) :
    (l.list { organization, window, limit }).Perm (l.within organization window) := by
  have hselects : AuditQuery.selects { organization, window, limit } = fun e =>
      organization.all (e.organization = ·) && window.contains e.createdAt := by
    funext e
    simp [AuditQuery.selects]
  rw [list, hselects, List.drop_zero, List.take_of_length_le]
  · exact (lists_newestFirst _).perm
  · exact (lists_newestFirst _).perm.length_eq.trans_le h

end AuditLog

/-- A summary is exact and says nothing about the order of the entries.  Over the log, its numbers
of entries add up where a span of time is cut in two, and its total is the length of the listing. -/
theorem summary_exact_and_additive :
    (∀ entries, (AuditSummary.ofEntries entries).Counts entries) ∧
      (∀ entries entries' : List AuditEntry, entries.Perm entries' →
        AuditSummary.ofEntries entries = .ofEntries entries') ∧
      ∀ (l : AuditLog) (organization : Option OrganizationId),
        (∀ a b c : Instant, a ≤ b → b ≤ c →
          (l.summarize organization ⟨a, c⟩).Sums (l.summarize organization ⟨a, b⟩)
            (l.summarize organization ⟨b, c⟩)
            (actorsOf (l.within organization ⟨a, b⟩) ∩ actorsOf (l.within organization ⟨b, c⟩))) ∧
        ∀ window limit, (l.summarize organization window).total ≤ limit →
          (l.list { organization, window, limit }).length =
            (l.summarize organization window).total := by
  refine ⟨AuditSummary.counts_ofEntries, fun _ _ => AuditSummary.ofEntries_eq_of_perm,
    fun l organization => ⟨fun a b c hab hbc => ?_, fun window limit hlimit => ?_⟩⟩
  · rw [AuditLog.summarize_eq_ofEntries,
      AuditSummary.ofEntries_eq_of_perm (AuditLog.within_perm_append hab hbc)]
    exact AuditSummary.sums_append _ _
  · have htotal := (AuditSummary.counts_ofEntries (l.within organization window)).total
    rw [AuditLog.summarize_eq_ofEntries, htotal] at hlimit ⊢
    exact (AuditLog.list_perm_within hlimit).length_eq

open Sample in
/-- The owner is one actor of the whole and one of each part. -/
theorem journal_summed_up :
    let whole := journal.summarize organization ⟨some ⟨1⟩, some ⟨4⟩⟩
    let earlier := journal.summarize organization ⟨some ⟨1⟩, some ⟨2⟩⟩
    let later := journal.summarize organization ⟨some ⟨2⟩, some ⟨4⟩⟩
    whole.byAction = [("security.role.created", 1), ("security.role.updated", 2)] ∧
      AuditSummary.ofEntries journal.entries = .ofEntries journal.entries.reverse ∧
      whole.total = earlier.total + later.total ∧
      (whole.distinctActors, earlier.distinctActors, later.distinctActors) = (1, 1, 1) ∧
      (journal.list { organization, window := ⟨some ⟨1⟩, some ⟨4⟩⟩, limit := 3 }).length =
        whole.total := by
  obtain ⟨-, hperm, hlog⟩ := summary_exact_and_additive
  obtain ⟨hsums, hlist⟩ := hlog journal organization
  exact ⟨by decide +kernel, hperm _ _ (List.reverse_perm _).symm,
    (hsums ⟨1⟩ ⟨2⟩ ⟨4⟩ (by decide) (by decide)).total, by decide +kernel,
    hlist ⟨some ⟨1⟩, some ⟨4⟩⟩ 3 (by decide +kernel)⟩

end AccessControl

import Mathlib.Data.List.Nodup
import AccessControl.Resolution

/-!
# One more element in a sorted list

Delegations and overrides are put in order before their rules are appended.  Two of them may be of
the same age, so that it matters where they stood before.  Sorting a list with one more element
gives the sorted list with the element put in at one position, and what stands behind it is known
(`exists_mergeSort_insert`).

Records with ids of their own are never of the same age.  Where they stood before does not matter
then, and a sorted list depends only on what is in it (`mergeSort_eq_of_perm`).

Whatever the records are, the latest of them comes last (`getLast?_mergeSort_of_isLatest`).
-/

namespace AccessControl

section Insertion

variable {α : Type} {le : α → α → Bool}

/-- Sorting puts the first element between those that come before it and all others, which are
sorted as they are without it. -/
theorem mergeSort_cons_eq (htrans : ∀ a b c, le a b → le b c → le a c)
    (htotal : ∀ a b, le a b || le b a) (a : α) (l : List α) :
    l.mergeSort le = (l.mergeSort le).filter (fun b => !le a b) ++ (l.mergeSort le).filter (le a) ∧
      (a :: l).mergeSort le =
        (l.mergeSort le).filter (fun b => !le a b) ++ a :: (l.mergeSort le).filter (le a) := by
  obtain ⟨s, t, hcons, hrest, hbefore⟩ := List.mergeSort_cons htrans htotal a l
  have hsorted := List.pairwise_mergeSort htrans htotal (a :: l)
  rw [hcons, List.pairwise_append, List.pairwise_cons] at hsorted
  have hs : ∀ b ∈ s, le a b = false := fun b hb => by simpa using hbefore b hb
  have ht : ∀ b ∈ t, le a b = true := hsorted.2.1.1
  have hfront : (s ++ t).filter (fun b => !le a b) = s := by
    rw [List.filter_append, List.filter_eq_self.mpr fun b hb => by simp [hs b hb],
      List.filter_eq_nil_iff.mpr fun b hb => by simp [ht b hb], List.append_nil]
  have hback : (s ++ t).filter (le a) = t := by
    rw [List.filter_append, List.filter_eq_nil_iff.mpr fun b hb => by simp [hs b hb],
      List.filter_eq_self.mpr ht, List.nil_append]
  rw [hcons, hrest, hfront, hback]
  exact ⟨rfl, rfl⟩

/-- With one more element a sorted list is the same except for that element.  Behind it stand the
elements that came before it and are greater, and those that came after it and are not smaller. -/
theorem exists_mergeSort_insert (htrans : ∀ a b c, le a b → le b c → le a c)
    (htotal : ∀ a b, le a b || le b a) (before behind : List α) (a : α) :
    ∃ s t, (before ++ behind).mergeSort le = s ++ t ∧
      (before ++ a :: behind).mergeSort le = s ++ a :: t ∧
      ∀ b, b ∈ t ↔ b ∈ before.filter (fun b => !le b a) ∨ b ∈ behind.filter (le a) := by
  induction before with
  | nil =>
      obtain ⟨hwithout, hwith⟩ := mergeSort_cons_eq htrans htotal a behind
      refine ⟨_, _, hwithout, hwith, ?_⟩
      intro b
      simp
  | cons x before ih =>
      obtain ⟨s, t, hwithout, hwith, ht⟩ := ih
      have hsorted := List.pairwise_mergeSort htrans htotal (before ++ a :: behind)
      rw [hwith, List.pairwise_append, List.pairwise_cons] at hsorted
      rw [List.cons_append, List.cons_append, (mergeSort_cons_eq htrans htotal x _).2,
        (mergeSort_cons_eq htrans htotal x _).2, hwithout, hwith]
      cases hxa : le x a with
      | true =>
          -- `x` goes in front of the new element, and what was behind that one stays there.
          have hxt : t.filter (le x) = t := by
            refine List.filter_eq_self.mpr ?_
            intro b hb
            exact htrans x a b hxa (hsorted.2.1.1 b hb)
          refine ⟨s.filter (fun b => !le x b) ++ t.filter (fun b => !le x b) ++
            x :: s.filter (le x), t.filter (le x), by simp, by simp [hxa], ?_⟩
          intro b
          rw [hxt, ht, List.filter_cons_of_neg (by simp [hxa])]
      | false =>
          -- `x` goes somewhere behind the new element, and nothing from the front with it.
          have hxs : s.filter (le x) = [] := by
            refine List.filter_eq_nil_iff.mpr ?_
            intro b hb hxb
            rw [htrans x b a hxb (hsorted.2.2 b hb a (List.mem_cons_self ..))] at hxa
            cases hxa
          refine ⟨s.filter (fun b => !le x b), t.filter (fun b => !le x b) ++ x :: t.filter (le x),
            by simp [hxs], by simp [hxa, hxs], ?_⟩
          intro b
          have hmem : b ∈ t.filter (fun b => !le x b) ++ x :: t.filter (le x) ↔ b = x ∨ b ∈ t := by
            cases hxb : le x b <;> simp [hxb, or_comm]
          rw [hmem, ht, List.filter_cons_of_pos (by simp [hxa]), List.mem_cons, or_assoc]

/-- It does not matter whether elements are left out before or after sorting. -/
theorem filter_mergeSort (htrans : ∀ a b c, le a b → le b c → le a c)
    (htotal : ∀ a b, le a b || le b a) (p : α → Bool) (l : List α) :
    (l.mergeSort le).filter p = (l.filter p).mergeSort le := by
  induction l with
  | nil => simp
  | cons a l ih =>
      obtain ⟨hwithout, hwith⟩ := mergeSort_cons_eq htrans htotal a l
      rw [hwith, List.filter_append]
      cases hp : p a with
      | false =>
          rw [List.filter_cons_of_neg (by simp [hp]), List.filter_cons_of_neg (by simp [hp]),
            ← List.filter_append, ← hwithout, ih]
      | true =>
          rw [List.filter_cons_of_pos hp, List.filter_cons_of_pos hp,
            (mergeSort_cons_eq htrans htotal a (l.filter p)).2, ← ih]
          simp only [List.filter_filter, Bool.and_comm]

/-- Sorting forgets the order in which the elements are given, when no two of them are each before
the other. -/
theorem mergeSort_eq_of_perm (htrans : ∀ a b c, le a b → le b c → le a c)
    (htotal : ∀ a b, le a b || le b a) {l l' : List α}
    (hanti : ∀ a ∈ l, ∀ b ∈ l, le a b → le b a → a = b) (h : l.Perm l') :
    l.mergeSort le = l'.mergeSort le := by
  have hperm : (l.mergeSort le).Perm (l'.mergeSort le) :=
    ((List.mergeSort_perm l le).trans h).trans (List.mergeSort_perm l' le).symm
  refine hperm.eq_of_pairwise ?_ (List.pairwise_mergeSort htrans htotal l)
    (List.pairwise_mergeSort htrans htotal l')
  intro a b ha hb
  exact hanti a (List.mem_mergeSort.mp ha) b (h.mem_iff.mpr (List.mem_mergeSort.mp hb))

end Insertion

/-! ## The order of records -/

section Age

variable {kind : Entity}

theorem Id.le_antisymm {a b : Id kind} (hab : a ≤ b) (hba : b ≤ a) : a = b :=
  congrArg Id.mk (Uuid.toNat_inj.mp (Nat.le_antisymm hab hba))

theorem comesBefore_trans (a b c : Instant × Id kind) (hab : comesBefore a b = true)
    (hbc : comesBefore b c = true) : comesBefore a c = true := by
  simp only [comesBefore, Bool.or_eq_true, Bool.and_eq_true, decide_eq_true_eq,
    Instant.lt_iff] at hab hbc ⊢
  rcases hab with hab | ⟨hab, hid⟩
  · rcases hbc with hbc | ⟨hbc, -⟩
    · exact .inl (Int.lt_trans hab hbc)
    · exact .inl (hbc ▸ hab)
  · rcases hbc with hbc | ⟨hbc, hid'⟩
    · exact .inl (hab ▸ hbc)
    · exact .inr ⟨hab.trans hbc, Nat.le_trans hid hid'⟩

theorem comesBefore_total (a b : Instant × Id kind) :
    (comesBefore a b || comesBefore b a) = true := by
  simp only [comesBefore, Bool.or_eq_true, Bool.and_eq_true, decide_eq_true_eq, Instant.lt_iff]
  rcases Int.lt_trichotomy a.1.ticks b.1.ticks with h | h | h
  · exact .inl (.inl h)
  · have hsame : a.1 = b.1 := congrArg Instant.mk h
    rcases Nat.le_total a.2.uuid.toNat b.2.uuid.toNat with hid | hid
    · exact .inl (.inr ⟨hsame, hid⟩)
    · exact .inr (.inr ⟨hsame.symm, hid⟩)
  · exact .inr (.inl h)

/-- Only one record has an age. -/
theorem comesBefore_antisymm {a b : Instant × Id kind} (hab : comesBefore a b = true)
    (hba : comesBefore b a = true) : a = b := by
  simp only [comesBefore, Bool.or_eq_true, Bool.and_eq_true, decide_eq_true_eq,
    Instant.lt_iff] at hab hba
  rcases hab with hab | ⟨htime, hid⟩
  · rcases hba with hba | ⟨htime, -⟩
    · exact absurd (Int.lt_trans hab hba) (Int.lt_irrefl _)
    · exact absurd (htime ▸ hab) (Int.lt_irrefl _)
  · rcases hba with hba | ⟨-, hid'⟩
    · exact absurd (htime ▸ hba) (Int.lt_irrefl _)
    · exact Prod.ext htime (Id.le_antisymm hid hid')

/-- The record is the latest of a list: none is of a later age, and of those of its age it is the
last. -/
def IsLatest {α : Type} (age : α → Instant × Id kind) (l : List α) (a : α) : Prop :=
  ∃ before behind, l = before ++ a :: behind ∧ (∀ b ∈ before, comesBefore (age b) (age a) = true) ∧
    ∀ b ∈ behind, comesBefore (age a) (age b) = false

section Latest

variable {α : Type} {age : α → Instant × Id kind} {l : List α} {a : α}

theorem IsLatest.mem (h : IsLatest age l a) : a ∈ l := by
  obtain ⟨before, behind, rfl, -⟩ := h
  simp

/-- Every list of records has a latest one, unless it is empty. -/
theorem exists_isLatest (age : α → Instant × Id kind) (hl : l ≠ []) : ∃ a, IsLatest age l a := by
  induction l with
  | nil => exact absurd rfl hl
  | cons x l ih =>
      by_cases hnil : l = []
      · subst hnil
        exact ⟨x, [], [], rfl, by simp, by simp⟩
      · obtain ⟨a, before, behind, rfl, hbefore, hbehind⟩ := ih hnil
        cases hxa : comesBefore (age x) (age a) with
        | true =>
            refine ⟨a, x :: before, behind, rfl, ?_, hbehind⟩
            intro b hb
            rcases List.mem_cons.mp hb with rfl | hb
            · exact hxa
            · exact hbefore b hb
        | false =>
            -- `x` is later than the latest of the others, and so later than all of them.
            refine ⟨x, [], before ++ a :: behind, rfl, by simp, ?_⟩
            intro b hb
            refine Bool.eq_false_iff.mpr ?_
            intro hxb
            have hba : comesBefore (age b) (age a) = true := by
              rcases List.mem_append.mp hb with hb | hb
              · exact hbefore b hb
              · rcases List.mem_cons.mp hb with rfl | hb
                · simpa using comesBefore_total (age b) (age b)
                · have htotal := comesBefore_total (age a) (age b)
                  rwa [hbehind b hb, Bool.false_or] at htotal
            rw [comesBefore_trans _ _ _ hxb hba] at hxa
            cases hxa

/-- Among records with ids of their own the latest is the one that no other is later than. -/
theorem isLatest_of_forall (hdistinct : (l.map fun a => (age a).2).Nodup) (ha : a ∈ l)
    (h : ∀ b ∈ l, comesBefore (age b) (age a) = true) : IsLatest age l a := by
  obtain ⟨before, behind, rfl⟩ := List.append_of_mem ha
  refine ⟨before, behind, rfl, ?_, ?_⟩
  · intro b hb
    exact h b (List.mem_append_left _ hb)
  · intro b hb
    refine Bool.eq_false_iff.mpr ?_
    intro hab
    -- Two records of one age would have one id.
    have hsame := comesBefore_antisymm hab (h b (by simp [hb]))
    rw [List.map_append, List.map_cons] at hdistinct
    have hnotMem := (List.nodup_cons.mp hdistinct.of_append_right).1
    rw [hsame] at hnotMem
    exact hnotMem (List.mem_map_of_mem hb)

/-- The latest record is sorted to the end. -/
theorem getLast?_mergeSort_of_isLatest (h : IsLatest age l a) :
    (l.mergeSort fun a b => comesBefore (age a) (age b)).getLast? = some a := by
  obtain ⟨before, behind, rfl, hbefore, hbehind⟩ := h
  obtain ⟨s, t, -, hsorted, ht⟩ := exists_mergeSort_insert
    (fun a b c => comesBefore_trans (age a) (age b) (age c))
    (fun a b => comesBefore_total (age a) (age b)) before behind a
  have hnil : t = [] := by
    refine List.eq_nil_iff_forall_not_mem.mpr ?_
    intro b hb
    rcases (ht b).mp hb with hb | hb
    · obtain ⟨hb, hlater⟩ := List.mem_filter.mp hb
      rw [hbefore b hb] at hlater
      cases hlater
    · obtain ⟨hb, hlater⟩ := List.mem_filter.mp hb
      rw [hbehind b hb] at hlater
      cases hlater
  rw [hsorted, hnil]
  simp

end Latest

end Age

end AccessControl

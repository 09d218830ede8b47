import AccessControl.RuleCache

/-!
# Tables with rows left out, put in and selected

What is found in a table after rows were selected or left out, and when selecting rows can be done
before or behind putting one in.  The laws of the capability cache come behind them.
-/

namespace AccessControl

namespace Table

variable {κ α : Type} {key : α → κ} [DecidableEq κ]

/-- Rows of one key are one row. -/
theorem eq_of_key_eq {t : Table key} {a b : α} (ha : a ∈ t.rows) (hb : b ∈ t.rows)
    (h : key a = key b) : a = b :=
  Option.some.inj ((find?_key ha).symm.trans (h ▸ find?_key hb))

/-- A row is found among selected ones if it is found among all and is selected. -/
theorem find?_filter (t : Table key) (p : α → Bool) (k : κ) :
    (t.filter p).find? k = (t.find? k).filter p := by
  refine Option.ext fun a => ?_
  rw [find?_eq_some, Option.filter_eq_some_iff, find?_eq_some, rows_filter, List.mem_filter,
    and_right_comm]

theorem find?_erase_self (t : Table key) (k : κ) : (t.erase k).find? k = none := by
  rw [find?_eq_none]
  rintro h
  obtain ⟨a, ha, hk⟩ := List.mem_map.mp h
  exact (mem_erase.mp ha).2 hk

theorem find?_erase_of_ne {t : Table key} {k k' : κ} (h : k' ≠ k) :
    (t.erase k).find? k' = t.find? k' := by
  refine Option.ext fun a => ?_
  rw [find?_eq_some, find?_eq_some, mem_erase]
  constructor
  · rintro ⟨⟨ha, -⟩, hk⟩
    exact ⟨ha, hk⟩
  · rintro ⟨ha, rfl⟩
    exact ⟨⟨ha, h⟩, rfl⟩

/-- What is not found is not found either once a row of another key is put in. -/
theorem find?_put_eq_none {t : Table key} {a : α} {k : κ} :
    (t.put a).find? k = none ↔ k ≠ key a ∧ t.find? k = none := by
  by_cases h : k = key a
  · subst h
    rw [find?_put_self]
    simp
  · rw [find?_put_of_ne h]
    simp [h]

/-- Where nothing was found before, it is the new row that is found. -/
theorem eq_of_find?_put_of_none {t : Table key} {a b : α} {k : κ} (hnone : t.find? k = none)
    (h : (t.put a).find? k = some b) : a = b := by
  by_cases hk : k = key a
  · rw [hk, find?_put_self] at h
    exact Option.some.inj h
  · rw [find?_put_of_ne hk, hnone] at h
    cases h

/-- A row that has a key of its own displaces no other. -/
theorem find?_put_of_free {t : Table key} {a b : α} {k : κ} (hfree : t.find? (key a) = none)
    (hb : t.find? k = some b) : (t.put a).find? k = some b := by
  have hne : k ≠ key a := by
    rintro rfl
    cases hfree.symm.trans hb
  rw [find?_put_of_ne hne, hb]

/-- A row that is put in the place of a stored one displaces no other. -/
theorem find?_put_of_stored {t : Table key} {a b stored : α} {k : κ}
    (hstored : t.find? (key stored) = some stored) (hkey : key a = key stored)
    (hb : t.find? k = some b) :
    (t.put a).find? k = some b ∨ b = stored ∧ (t.put a).find? k = some a := by
  by_cases hk : k = key a
  · subst hk
    rw [hkey] at hb
    exact .inr ⟨Option.some.inj (hb.symm.trans hstored), find?_put_self t a⟩
  · exact .inl ((find?_put_of_ne hk).trans hb)

/-- A row that is put in the place of a stored one brings no key. -/
theorem find?_put_eq_none_of_stored {t : Table key} {a stored : α} {k : κ}
    (hstored : t.find? (key stored) = some stored) (hkey : key a = key stored)
    (hnone : t.find? k = none) : (t.put a).find? k = none := by
  refine find?_put_eq_none.mpr ⟨?_, hnone⟩
  rintro rfl
  rw [hkey] at hnone
  cases hstored.symm.trans hnone

theorem mem_keys {t : Table key} {k : κ} : k ∈ t.rows.map key ↔ (t.find? k).isSome = true := by
  rw [Option.isSome_iff_ne_none, ne_eq, find?_eq_none, Classical.not_not]

/-! ## Selecting and putting in -/

/-- A selected row is put in the place of a selected one. -/
theorem filter_put_of_pos {t : Table key} {a : α} {p : α → Bool} (ha : p a = true)
    (hold : ∀ b, t.find? (key a) = some b → p b = true) :
    (t.put a).filter p = (t.filter p).put a := by
  refine ext ?_
  rw [rows_filter]
  by_cases hmem : key a ∈ t.rows.map key
  · have hkept : key a ∈ (t.filter p).rows.map key := by
      rw [mem_keys] at hmem ⊢
      obtain ⟨b, hb⟩ := Option.isSome_iff_exists.mp hmem
      simp [find?_filter, hb, hold b hb, Option.filter_some]
    rw [rows_put_of_mem hmem, rows_put_of_mem hkept, replaced, replaced, List.filter_map,
      rows_filter]
    refine congrArg _ (List.filter_congr fun b hb => ?_)
    by_cases hkey : key b = key a
    · simp [hkey, ha, hold b (hkey ▸ find?_key hb)]
    · simp [hkey]
  · have hkept : key a ∉ (t.filter p).rows.map key := fun h =>
      hmem (List.map_subset key List.filter_sublist.subset h)
    rw [rows_put_of_not_mem hmem, rows_put_of_not_mem hkept, List.filter_append, rows_filter,
      List.filter_cons_of_pos ha, List.filter_nil]

/-- Where other rows are selected, one that is put in is not seen. -/
theorem filter_put_of_neg {t : Table key} {a : α} {p : α → Bool} (ha : p a = false)
    (hold : ∀ b, t.find? (key a) = some b → p b = false) : (t.put a).filter p = t.filter p := by
  refine ext ?_
  rw [rows_filter, rows_filter]
  by_cases hmem : key a ∈ t.rows.map key
  · have hsame : t.rows.filter (p ∘ fun b => if key b = key a then a else b) = t.rows.filter p := by
      refine List.filter_congr fun b hb => ?_
      by_cases hkey : key b = key a
      · simp [hkey, ha, hold b (hkey ▸ find?_key hb)]
      · simp [hkey]
    have hstay : ∀ b ∈ t.rows.filter p, (if key b = key a then a else b) = id b := by
      intro b hb
      obtain ⟨hb, hp⟩ := List.mem_filter.mp hb
      refine if_neg fun hkey => ?_
      rw [hold b (hkey ▸ find?_key hb)] at hp
      cases hp
    rw [rows_put_of_mem hmem, replaced, List.filter_map, hsame,
      List.map_congr_left hstay, List.map_id]
  · rw [rows_put_of_not_mem hmem, List.filter_append, List.filter_cons_of_neg (by simp [ha]),
      List.filter_nil, List.append_nil]

end Table

/-! ## The capability cache -/

namespace RuleCache

variable (c : RuleCache) (organization organization' : OrganizationId) (user user' : UserId)

theorem get_set (rules : RuleSet) (ttl : Nat) :
    (c.set organization user rules ttl).get organization' user' =
      if ttl ≠ 0 ∧ organization' = organization ∧ user' = user then some rules
      else c.get organization' user' := by
  rw [set]
  by_cases httl : ttl = 0
  · simp [httl]
  · rw [if_neg httl, get, get]
    by_cases hkey : (organization', user') = CachedRules.key ⟨organization, user, rules⟩
    · obtain ⟨rfl, rfl⟩ := Prod.mk.inj hkey
      rw [hkey, Table.find?_put_self, if_pos ⟨httl, rfl, rfl⟩]
      rfl
    · rw [Table.find?_put_of_ne hkey, if_neg fun h => hkey (Prod.ext h.2.1 h.2.2)]

theorem get_forgetUser :
    (c.forgetUser organization user).get organization' user' =
      if organization' = organization ∧ user' = user then none
      else c.get organization' user' := by
  rw [get, forgetUser, get]
  by_cases hkey : (organization', user') = (organization, user)
  · obtain ⟨rfl, rfl⟩ := Prod.mk.inj hkey
    rw [Table.find?_erase_self, if_pos ⟨rfl, rfl⟩]
    rfl
  · rw [Table.find?_erase_of_ne hkey, if_neg fun h => hkey (Prod.ext h.1 h.2)]

theorem get_forgetOrganization :
    (c.forgetOrganization organization).get organization' user =
      if organization' = organization then none else c.get organization' user := by
  rw [get, forgetOrganization, Table.find?_filter, get]
  cases hfound : c.kept.find? (organization', user) with
  | none => simp
  | some r =>
      have hkey : r.organization = organization' := congrArg Prod.fst (Table.key_of_find? hfound)
      by_cases hsame : organization' = organization <;> simp [Option.filter_some, hkey, hsame]

end RuleCache

end AccessControl

/-! # Tables

Rows in the order in which they were first put in, no two of them with the same key. -/

namespace AccessControl

structure Table {κ α : Type} (key : α → κ) where
  rows : List α := []
  distinct : (rows.map key).Nodup := by exact List.nodup_nil

namespace Table

variable {κ α : Type} {key : α → κ}

def empty : Table key := {}

instance : Inhabited (Table key) := ⟨empty⟩

theorem ext {s t : Table key} (h : s.rows = t.rows) : s = t := by
  cases s
  cases t
  cases h
  rfl

/-- Keep the rows that fulfil a condition. -/
def filter (t : Table key) (p : α → Bool) : Table key :=
  ⟨t.rows.filter p, List.Nodup.sublist (List.filter_sublist.map key) t.distinct⟩

@[simp] theorem rows_filter (t : Table key) (p : α → Bool) : (t.filter p).rows = t.rows.filter p :=
  rfl

theorem distinct_append {t : Table key} {a : α} (h : key a ∉ t.rows.map key) :
    ((t.rows ++ [a]).map key).Nodup := by
  rw [List.map_append, List.nodup_append]
  refine ⟨t.distinct, by simp, ?_⟩
  intro k hk l hl heq
  rw [List.map_singleton, List.mem_singleton] at hl
  exact h (hl ▸ heq ▸ hk)

variable [DecidableEq κ]

def find? (t : Table key) (k : κ) : Option α := t.rows.find? fun a => key a = k

/-- The rows with `a` in the place of the row of its key. -/
def replaced (key : α → κ) (a : α) (rows : List α) : List α :=
  rows.map fun b => if key b = key a then a else b

theorem map_key_replaced (a : α) (rows : List α) :
    (replaced key a rows).map key = rows.map key := by
  rw [replaced, List.map_map]
  refine List.map_congr_left fun b _ => ?_
  by_cases h : key b = key a <;> simp [h]

theorem distinct_replaced (t : Table key) (a : α) : ((replaced key a t.rows).map key).Nodup := by
  rw [map_key_replaced]
  exact t.distinct

/-- Put a row in the place of the one with its key, or behind all others. -/
def put (t : Table key) (a : α) : Table key :=
  if h : key a ∈ t.rows.map key then ⟨replaced key a t.rows, distinct_replaced t a⟩
  else ⟨t.rows ++ [a], distinct_append h⟩

def erase (t : Table key) (k : κ) : Table key := t.filter fun a => key a ≠ k

theorem key_of_find? {t : Table key} {k : κ} {a : α} (h : t.find? k = some a) : key a = k := by
  simpa using List.find?_some h

theorem mem_of_find? {t : Table key} {k : κ} {a : α} (h : t.find? k = some a) : a ∈ t.rows :=
  List.mem_of_find?_eq_some h

theorem find?_eq_none {t : Table key} {k : κ} : t.find? k = none ↔ k ∉ t.rows.map key := by
  simp [find?]

theorem find?_map_self {rows : List α} (h : (rows.map key).Nodup) {a : α} (ha : a ∈ rows) :
    (rows.find? fun b => key b = key a) = some a := by
  induction rows with
  | nil => simp at ha
  | cons b rows ih =>
    rw [List.map_cons, List.nodup_cons] at h
    rcases List.mem_cons.mp ha with rfl | hmem
    · simp
    · have hne : key b ≠ key a := fun heq => h.1 (heq ▸ List.mem_map_of_mem hmem)
      simp [hne, ih h.2 hmem]

/-- A row is found under its key. -/
theorem find?_key {t : Table key} {a : α} (h : a ∈ t.rows) : t.find? (key a) = some a :=
  find?_map_self t.distinct h

theorem find?_eq_some {t : Table key} {k : κ} {a : α} :
    t.find? k = some a ↔ a ∈ t.rows ∧ key a = k :=
  ⟨fun h => ⟨mem_of_find? h, key_of_find? h⟩, fun ⟨h, hk⟩ => hk ▸ find?_key h⟩

theorem rows_put_of_mem {t : Table key} {a : α} (h : key a ∈ t.rows.map key) :
    (t.put a).rows = replaced key a t.rows := by
  rw [put, dif_pos h]

theorem rows_put_of_not_mem {t : Table key} {a : α} (h : key a ∉ t.rows.map key) :
    (t.put a).rows = t.rows ++ [a] := by
  rw [put, dif_neg h]

theorem mem_put {t : Table key} {a b : α} :
    b ∈ (t.put a).rows ↔ b = a ∨ b ∈ t.rows ∧ key b ≠ key a := by
  by_cases h : key a ∈ t.rows.map key
  · rw [rows_put_of_mem h, replaced, List.mem_map]
    constructor
    · rintro ⟨c, hc, rfl⟩
      by_cases hk : key c = key a
      · exact .inl (by simp [hk])
      · exact .inr (by simp [hk, hc])
    · rintro (rfl | ⟨hb, hk⟩)
      · obtain ⟨c, hc, hk⟩ := List.mem_map.mp h
        exact ⟨c, hc, by simp [hk]⟩
      · exact ⟨b, hb, by simp [hk]⟩
  · rw [rows_put_of_not_mem h, List.mem_append, List.mem_singleton]
    constructor
    · rintro (hb | rfl)
      · exact .inr ⟨hb, fun hk => h (hk ▸ List.mem_map_of_mem hb)⟩
      · exact .inl rfl
    · rintro (rfl | ⟨hb, -⟩)
      · exact .inr rfl
      · exact .inl hb

theorem find?_put_self (t : Table key) (a : α) : (t.put a).find? (key a) = some a :=
  find?_key (mem_put.mpr (.inl rfl))

theorem find?_put_of_ne {t : Table key} {a : α} {k : κ} (h : k ≠ key a) :
    (t.put a).find? k = t.find? k := by
  refine Option.ext fun b => ?_
  rw [find?_eq_some, find?_eq_some, mem_put]
  constructor
  · rintro ⟨rfl | ⟨hb, -⟩, hk⟩
    · exact absurd hk.symm h
    · exact ⟨hb, hk⟩
  · rintro ⟨hb, rfl⟩
    exact ⟨.inr ⟨hb, h⟩, rfl⟩

theorem mem_erase {t : Table key} {k : κ} {a : α} :
    a ∈ (t.erase k).rows ↔ a ∈ t.rows ∧ key a ≠ k := by
  simp [erase]

end Table

end AccessControl

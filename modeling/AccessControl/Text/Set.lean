/-! # Sets of texts

A set is held as its texts in ascending order, so that equal sets are equal values. -/

namespace AccessControl

structure TextSet where
  toList : List String
  ascending : toList.Pairwise (· < ·)
deriving DecidableEq, Repr

namespace TextSet

def empty : TextSet := ⟨[], List.Pairwise.nil⟩

instance : Inhabited TextSet := ⟨empty⟩

instance : Membership String TextSet := ⟨fun s t => t ∈ s.toList⟩

instance (t : String) (s : TextSet) : Decidable (t ∈ s) :=
  inferInstanceAs (Decidable (t ∈ s.toList))

theorem mem_iff {t : String} {s : TextSet} : t ∈ s ↔ t ∈ s.toList := Iff.rfl

def insertSorted (t : String) : List String → List String
  | [] => [t]
  | u :: us => if t < u then t :: u :: us else if t = u then u :: us else u :: insertSorted t us

@[simp] theorem mem_insertSorted {t v : String} {us : List String} :
    v ∈ insertSorted t us ↔ v = t ∨ v ∈ us := by
  induction us with
  | nil => simp [insertSorted]
  | cons u us ih =>
    rw [insertSorted]
    split
    · simp
    · split
      · rename_i h
        simp [h]
      · simp [ih, or_left_comm]

theorem pairwise_insertSorted {t : String} {us : List String} (h : us.Pairwise (· < ·)) :
    (insertSorted t us).Pairwise (· < ·) := by
  induction us with
  | nil => simp [insertSorted]
  | cons u us ih =>
    have hu := List.pairwise_cons.mp h
    rw [insertSorted]
    split
    · rename_i hlt
      exact List.pairwise_cons.mpr ⟨fun v hv => by
        rcases List.mem_cons.mp hv with rfl | hv
        · exact hlt
        · exact String.lt_trans hlt (hu.1 v hv), h⟩
    · split
      · exact h
      · rename_i hlt hne
        refine List.pairwise_cons.mpr ⟨fun v hv => ?_, ih hu.2⟩
        rcases mem_insertSorted.mp hv with rfl | hv
        · refine Decidable.byContradiction fun hvu => hne ?_
          exact String.le_antisymm (String.not_lt.mp hvu) (String.not_lt.mp hlt)
        · exact hu.1 v hv

def insert (s : TextSet) (t : String) : TextSet :=
  ⟨insertSorted t s.toList, pairwise_insertSorted s.ascending⟩

@[simp] theorem mem_insert {s : TextSet} {t v : String} : v ∈ s.insert t ↔ v = t ∨ v ∈ s :=
  mem_insertSorted

def ofList (ts : List String) : TextSet := ts.foldr (fun t s => s.insert t) empty

@[simp] theorem mem_ofList {ts : List String} {v : String} : v ∈ ofList ts ↔ v ∈ ts := by
  induction ts with
  | nil => simp [ofList, empty, mem_iff]
  | cons t ts ih =>
    rw [List.mem_cons, ← ih]
    exact mem_insert

theorem insertSorted_of_forall_lt {t : String} {us : List String} (h : ∀ u ∈ us, t < u) :
    insertSorted t us = t :: us := by
  cases us with
  | nil => rfl
  | cons u us => rw [insertSorted, if_pos (h u (List.mem_cons_self ..))]

theorem toList_ofList {ts : List String} (h : ts.Pairwise (· < ·)) : (ofList ts).toList = ts := by
  induction ts with
  | nil => rfl
  | cons t ts ih =>
    have ht := List.pairwise_cons.mp h
    change insertSorted t (ofList ts).toList = t :: ts
    rw [ih ht.2, insertSorted_of_forall_lt ht.1]

/-- A set is the set of its texts. -/
@[simp] theorem ofList_toList (s : TextSet) : ofList s.toList = s := by
  obtain ⟨ts, h⟩ := s
  have := toList_ofList h
  cases hs : ofList ts
  simp_all

end TextSet

end AccessControl

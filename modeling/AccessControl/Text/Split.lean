/-! # Splitting texts -/

namespace AccessControl.Text

/-- What stands before and after the last `sep`. -/
def splitLast? (sep : Char) : List Char → Option (List Char × List Char)
  | [] => none
  | c :: cs =>
    match splitLast? sep cs with
    | some (before, after) => some (c :: before, after)
    | none => if c = sep then some ([], cs) else none

/-- What stands before the first `sep`, and what stands after it. -/
def splitFirst? (sep : Char) : List Char → Option (List Char × List Char)
  | [] => none
  | c :: cs =>
    if c = sep then some ([], cs)
    else (splitFirst? sep cs).map fun (before, after) => (c :: before, after)

/-- The pieces between separators, one more than there are separators. -/
def splitAll (sep : Char) : List Char → List (List Char)
  | [] => [[]]
  | c :: cs =>
    if c = sep then [] :: splitAll sep cs
    else match splitAll sep cs with
      | [] => [[c]]
      | piece :: pieces => (c :: piece) :: pieces

theorem splitLast?_eq_none {sep : Char} {cs : List Char} :
    splitLast? sep cs = none ↔ sep ∉ cs := by
  induction cs with
  | nil => simp [splitLast?]
  | cons c cs ih =>
    rw [splitLast?]
    cases h : splitLast? sep cs with
    | some p =>
      have : sep ∈ cs := by
        by_cases hm : sep ∈ cs
        · exact hm
        · rw [ih.mpr hm] at h
          contradiction
      simp [this]
    | none =>
      have : sep ∉ cs := ih.mp h
      by_cases hc : c = sep
      · simp [hc]
      · simp [hc, this, Ne.symm hc]

theorem splitLast?_append {sep : Char} {after : List Char} (h : sep ∉ after)
    (before : List Char) : splitLast? sep (before ++ sep :: after) = some (before, after) := by
  induction before with
  | nil => simp [splitLast?, splitLast?_eq_none.mpr h]
  | cons c cs ih => simp [splitLast?, ih]

theorem eq_append_of_splitLast? {sep : Char} {cs before after : List Char}
    (h : splitLast? sep cs = some (before, after)) :
    cs = before ++ sep :: after ∧ sep ∉ after := by
  induction cs generalizing before with
  | nil => simp [splitLast?] at h
  | cons c cs ih =>
    rw [splitLast?] at h
    cases hs : splitLast? sep cs with
    | some p =>
      obtain ⟨b, a⟩ := p
      simp only [hs, Option.some.injEq, Prod.mk.injEq] at h
      obtain ⟨rfl, rfl⟩ := h
      obtain ⟨rfl, hmem⟩ := ih hs
      exact ⟨rfl, hmem⟩
    | none =>
      simp only [hs] at h
      by_cases hc : c = sep
      · simp only [hc, if_true, Option.some.injEq, Prod.mk.injEq] at h
        obtain ⟨rfl, rfl⟩ := h
        exact ⟨by rw [hc]; rfl, splitLast?_eq_none.mp hs⟩
      · simp [hc] at h

/-- The separator found is the last one. -/
theorem splitLast?_eq_some {sep : Char} {cs before after : List Char} :
    splitLast? sep cs = some (before, after) ↔ cs = before ++ sep :: after ∧ sep ∉ after :=
  ⟨eq_append_of_splitLast?, fun ⟨h, hmem⟩ => h ▸ splitLast?_append hmem before⟩

end AccessControl.Text

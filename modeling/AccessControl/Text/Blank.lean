/-! # Blank characters and trimming -/

namespace AccessControl.Text

/-- The characters with the Unicode property White_Space. -/
def isBlank (c : Char) : Bool :=
  let n := c.toNat
  (0x09 ≤ n && n ≤ 0x0D) || n == 0x20 || n == 0x85 || n == 0xA0 || n == 0x1680
    || (0x2000 ≤ n && n ≤ 0x200A) || n == 0x2028 || n == 0x2029 || n == 0x202F
    || n == 0x205F || n == 0x3000

/-- No character of the text shows. -/
def allBlank (s : String) : Bool := s.toList.all isBlank

def trimChars (cs : List Char) : List Char :=
  ((cs.dropWhile isBlank).reverse.dropWhile isBlank).reverse

/-- Drop the blank characters at both ends. -/
def trim (s : String) : String := String.ofList (trimChars s.toList)

/-- A text is kept only when something of it shows. -/
def shown? (s : Option String) : Option String := s.filter fun s => !allBlank s

theorem dropWhile_of_head {p : Char → Bool} {c : Char} {cs : List Char} (h : p c = false) :
    (c :: cs).dropWhile p = c :: cs := by
  simp [h]

theorem of_dropWhile_eq_cons {p : Char → Bool} {c : Char} {cs rest : List Char}
    (h : cs.dropWhile p = c :: rest) : p c = false := by
  induction cs with
  | nil => cases h
  | cons d cs ih =>
    cases hd : p d with
    | true =>
      rw [List.dropWhile_cons, if_pos hd] at h
      exact ih h
    | false =>
      rw [dropWhile_of_head hd] at h
      cases h
      exact hd

theorem dropWhile_dropWhile (p : Char → Bool) (cs : List Char) :
    (cs.dropWhile p).dropWhile p = cs.dropWhile p := by
  cases h : cs.dropWhile p with
  | nil => rfl
  | cons c rest => exact dropWhile_of_head (of_dropWhile_eq_cons h)

/-- What is left after trimming starts with no blank. -/
theorem dropWhile_trimChars (cs : List Char) : (trimChars cs).dropWhile isBlank = trimChars cs := by
  -- What is left starts where the text starts behind its first blanks.
  have hsplit :=
    List.takeWhile_append_dropWhile (p := isBlank) (l := (cs.dropWhile isBlank).reverse)
  have hstart : cs.dropWhile isBlank =
      trimChars cs ++ ((cs.dropWhile isBlank).reverse.takeWhile isBlank).reverse := by
    rw [trimChars, ← List.reverse_append, hsplit, List.reverse_reverse]
  cases h : trimChars cs with
  | nil => rfl
  | cons c rest =>
    rw [h] at hstart
    exact dropWhile_of_head (of_dropWhile_eq_cons hstart)

/-- What is left after trimming ends with no blank. -/
theorem dropWhile_reverse_trimChars (cs : List Char) :
    (trimChars cs).reverse.dropWhile isBlank = (trimChars cs).reverse := by
  rw [trimChars, List.reverse_reverse, dropWhile_dropWhile]

/-- What is left after trimming has nothing to trim. -/
theorem trimChars_trimChars (cs : List Char) : trimChars (trimChars cs) = trimChars cs := by
  rw [trimChars, dropWhile_trimChars, dropWhile_reverse_trimChars, List.reverse_reverse]

theorem trim_trim (s : String) : trim (trim s) = trim s := by
  rw [trim, trim, String.toList_ofList, trimChars_trimChars]

/-- No blank character stands at either end of the text. -/
def IsTrimmed (s : String) : Prop :=
  (∀ c ∈ s.toList.head?, isBlank c = false) ∧ ∀ c ∈ s.toList.getLast?, isBlank c = false

theorem not_blank_of_mem_head? {cs : List Char} (h : cs.dropWhile isBlank = cs) :
    ∀ c ∈ cs.head?, isBlank c = false := by
  cases cs with
  | nil => simp
  | cons d rest =>
    rintro c ⟨⟩
    exact of_dropWhile_eq_cons h

theorem isTrimmed_trim (s : String) : IsTrimmed (trim s) := by
  rw [IsTrimmed, trim, String.toList_ofList, ← List.head?_reverse]
  exact ⟨not_blank_of_mem_head? (dropWhile_trimChars _),
    not_blank_of_mem_head? (dropWhile_reverse_trimChars _)⟩

end AccessControl.Text

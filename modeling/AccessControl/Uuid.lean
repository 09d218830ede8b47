import AccessControl.Text.Digits

/-! # UUIDs and their written forms -/

namespace AccessControl

structure Uuid where
  bits : BitVec 128
deriving DecidableEq, Repr

namespace Uuid

open AccessControl.Text

def nil : Uuid := ⟨0⟩

def toNat (u : Uuid) : Nat := u.bits.toNat

instance : LE Uuid := ⟨fun a b => a.toNat ≤ b.toNat⟩

instance (a b : Uuid) : Decidable (a ≤ b) := inferInstanceAs (Decidable (a.toNat ≤ b.toNat))

theorem toNat_inj {a b : Uuid} : a.toNat = b.toNat ↔ a = b := by
  cases a
  cases b
  simp [toNat, BitVec.toNat_inj]

/-- The sizes of all groups of digits but the last. -/
def groups : List Nat := [8, 4, 4, 4]

def joinGroups : List Nat → List Char → List Char
  | [], cs => cs
  | n :: ns, cs => cs.take n ++ '-' :: joinGroups ns (cs.drop n)

def splitGroups? : List Nat → List Char → Option (List Char)
  | [], cs => some cs
  | n :: ns, cs =>
    match cs.drop n with
    | '-' :: rest => (splitGroups? ns rest).map (cs.take n ++ ·)
    | _ => none

def toChars (u : Uuid) : List Char := (toDigits 16 32 u.toNat).map hexDigit

/-- Lower-case digits with hyphens. -/
def toString (u : Uuid) : String := String.ofList (joinGroups groups u.toChars)

instance : ToString Uuid := ⟨toString⟩

/-- Thirty-two hexadecimal digits. -/
def ofChars? (cs : List Char) : Option Uuid :=
  if cs.length = 32 then
    (cs.mapM hexDigit?).map fun ds => ⟨BitVec.ofNat 128 (ofDigits 16 ds)⟩
  else none

def ofHyphenated? (cs : List Char) : Option Uuid := splitGroups? groups cs >>= ofChars?

def ofBraced? : List Char → Option Uuid
  | '{' :: rest => if rest.getLast? = some '}' then ofHyphenated? rest.dropLast else none
  | _ => none

def ofUrn? : List Char → Option Uuid
  | 'u' :: 'r' :: 'n' :: ':' :: 'u' :: 'u' :: 'i' :: 'd' :: ':' :: rest => ofHyphenated? rest
  | _ => none

/-- The digits plain or with hyphens, and the latter also in braces or after `urn:uuid:`. -/
def parse? (s : String) : Option Uuid :=
  let cs := s.toList
  ofChars? cs |>.or (ofHyphenated? cs) |>.or (ofBraced? cs) |>.or (ofUrn? cs)

theorem splitGroups?_joinGroups (ns : List Nat) (cs : List Char)
    (h : ns.foldr (· + ·) 0 ≤ cs.length) :
    splitGroups? ns (joinGroups ns cs) = some cs := by
  induction ns generalizing cs with
  | nil => rfl
  | cons n ns ih =>
    rw [List.foldr_cons] at h
    have hn : (cs.take n).length = n := by simp; omega
    have hrest : ns.foldr (· + ·) 0 ≤ (cs.drop n).length := by simp; omega
    simp [joinGroups, splitGroups?, hn, ih _ hrest]

theorem ofChars?_toChars (u : Uuid) : ofChars? u.toChars = some u := by
  have hread : u.toChars.mapM hexDigit? = some (toDigits 16 32 u.toNat) := by
    rw [toChars, List.mapM_map]
    have : ∀ ds : List Nat, (∀ d ∈ ds, d < 16) →
        ds.mapM (fun d => hexDigit? (hexDigit d)) = some ds := by
      intro ds
      induction ds with
      | nil => intro _; rfl
      | cons d ds ih =>
        intro h
        simp [hexDigit?_hexDigit (h d (by simp)), ih fun x hx => h x (by simp [hx])]
    exact this _ fun d hd => lt_of_mem_toDigits (by decide) hd
  have hlt : u.toNat < Nat.pow 16 32 := u.bits.isLt
  have hlen : u.toChars.length = 32 := by simp [toChars]
  rw [ofChars?, if_pos hlen, hread, Option.map_some, ofDigits_toDigits 32 hlt]
  simp [toNat]

theorem length_joinGroups (ns : List Nat) (cs : List Char) :
    (joinGroups ns cs).length = cs.length + ns.length := by
  induction ns generalizing cs with
  | nil => rfl
  | cons n ns ih => simp [joinGroups, ih]; omega

/-- Reading gives back every UUID from the form in which it is printed. -/
theorem parse?_toString (u : Uuid) : parse? u.toString = some u := by
  have hlen : u.toChars.length = 32 := by simp [toChars]
  have hjoined : (joinGroups groups u.toChars).length = 36 := by
    rw [length_joinGroups, hlen]
    rfl
  have hplain : ofChars? (joinGroups groups u.toChars) = none := by
    rw [ofChars?, if_neg]
    omega
  have hhyphens : ofHyphenated? (joinGroups groups u.toChars) = some u := by
    have hsum : groups.foldr (· + ·) 0 ≤ u.toChars.length := by
      rw [hlen]
      decide
    rw [ofHyphenated?, splitGroups?_joinGroups groups _ hsum, Option.bind_eq_bind,
      Option.bind_some, ofChars?_toChars]
  rw [parse?, toString, String.toList_ofList]
  simp only [hplain, hhyphens, Option.none_or, Option.some_or]

end Uuid

end AccessControl

import AccessControl.Json.Read
import AccessControl.Json.Write

/-!
# Reading what was written

A written value is read back, whatever follows it, as long as there is room for the containers that
it has inside each other (`read_render`).  Numbers are left out: nothing that is kept as a text has
any.
-/

namespace AccessControl.Json

mutual

/-- There are no numbers, and no more than `room` containers inside each other. -/
def Plain : Nat → Json → Prop
  | _, .null | _, .bool _ | _, .string _ => True
  | _, .number _ | 0, .array _ | 0, .object _ => False
  | room + 1, .array items => AllPlain room items
  | room + 1, .object members => AllMembersPlain room members

def AllPlain : Nat → List Json → Prop
  | _, [] => True
  | room, j :: rest => Plain room j ∧ AllPlain room rest

def AllMembersPlain : Nat → List (String × Json) → Prop
  | _, [] => True
  | room, (_, j) :: rest => Plain room j ∧ AllMembersPlain room rest

end

namespace Read

open AccessControl.Text

/-! ## Strings -/

theorem escapedCodePoint?_control {c : Char} (h : c.toNat < 0x20) (rest : List Char) :
    escapedCodePoint? ('0' :: '0' :: hexDigit (c.toNat / 16) :: hexDigit (c.toNat % 16) :: rest) =
      some (some c, rest) := by
  have hunit : codeUnit?
      ('0' :: '0' :: hexDigit (c.toNat / 16) :: hexDigit (c.toNat % 16) :: rest) =
        some (c.toNat, rest) := by
    have hzero : hexDigit? '0' = some 0 := by decide
    have hnumber : ofDigits 16 [0, 0, c.toNat / 16, c.toNat % 16] = c.toNat := by
      simp only [ofDigits, List.foldl_cons, List.foldl_nil]
      omega
    simp only [codeUnit?, hzero, hexDigit?_hexDigit (show c.toNat / 16 < 16 by omega),
      hexDigit?_hexDigit (show c.toNat % 16 < 16 by omega), Option.bind_eq_bind, Option.bind_some,
      hnumber]
    rfl
  have hhigh : isHighSurrogate c.toNat = false := by
    simp [isHighSurrogate]
    omega
  have hlow : isLowSurrogate c.toNat = false := by
    simp [isLowSurrogate]
    omega
  simp [escapedCodePoint?, hunit, hhigh, hlow, Char.ofNat_toNat]

theorem stringChar?_escape (c : Char) (rest : List Char) :
    stringChar? (escape c ++ rest) = some (some c, rest) := by
  rw [escape]
  split
  · rename_i h
    rw [h]
    rfl
  split
  · rename_i h
    rw [h]
    rfl
  split
  · rename_i h
    rw [h]
    rfl
  split
  · rename_i h
    rw [h]
    rfl
  split
  · rename_i h
    rw [h]
    rfl
  split
  · rename_i h
    exact escapedCodePoint?_control h rest
  · rename_i hquote hback _ _ _ hprints
    rw [List.singleton_append, stringChar?.eq_def]
    split <;> simp_all

theorem escape_append_ne (c : Char) (rest rest' : List Char) : escape c ++ rest ≠ '"' :: rest' := by
  intro heq
  have hread := stringChar?_escape c rest
  rw [heq] at hread
  obtain rfl : '"' = c := Option.some.inj (congrArg Prod.fst (Option.some.inj hread))
  cases heq

theorem stringBody?_escape (fuel : Nat) (done : List (Option Char)) (c : Char) (rest : List Char) :
    stringBody? (fuel + 1) done (escape c ++ rest) = stringBody? fuel (some c :: done) rest := by
  rw [stringBody?.eq_def]
  split
  · rename_i hfuel
    cases hfuel
  · rename_i heq
    exact absurd heq (escape_append_ne c rest _)
  · rename_i hfuel _
    obtain rfl := Nat.succ.inj hfuel
    rw [stringChar?_escape]
    rfl

theorem stringBody?_escapes (cs : List Char) {fuel : Nat} (h : cs.length < fuel)
    (done : List (Option Char)) (rest : List Char) :
    stringBody? fuel done (cs.flatMap escape ++ '"' :: rest) =
      some (done.reverse ++ cs.map some, rest) := by
  induction cs generalizing fuel done with
  | nil =>
      obtain ⟨fuel, rfl⟩ := Nat.exists_eq_add_one.mpr (Nat.zero_lt_of_lt h)
      simp [stringBody?]
  | cons c cs ih =>
      obtain ⟨fuel, rfl⟩ := Nat.exists_eq_add_one.mpr (Nat.zero_lt_of_lt h)
      rw [List.flatMap_cons, List.append_assoc, stringBody?_escape,
        ih (Nat.lt_of_succ_lt_succ h), List.reverse_cons, List.append_assoc]
      rfl

/-- The characters of a text between quotation marks, the last one included. -/
theorem string?_escapes (s : String) {bound : Bound} (h : s.length < bound) (rest : List Char) :
    string? bound (s.toList.flatMap escape ++ '"' :: rest) = some (some s, rest) := by
  have hall : ∀ cs : List Char, (cs.map some).mapM id = some cs := by
    intro cs
    induction cs with
    | nil => rfl
    | cons c cs ih => simp only [List.map_cons, List.mapM_cons, id, ih]; rfl
  rw [string?, stringBody?_escapes s.toList h]
  simp only [List.reverse_nil, List.nil_append, Option.bind_eq_bind, Option.bind_some, hall,
    Option.map_some, String.ofList_toList]
  rfl

theorem toList_quote (s : String) :
    (quote s).toList = '"' :: (s.toList.flatMap escape ++ ['"']) := by
  simp [quote]

/-- An escape is at least as long as what it stands for. -/
theorem length_lt_quote (s : String) : s.length < (quote s).toList.length := by
  have hescape : ∀ c : Char, 0 < (escape c).length := by
    intro c
    refine List.length_pos_iff.mpr fun hnil => ?_
    have hread := stringChar?_escape c []
    rw [hnil] at hread
    cases hread
  have hbody : ∀ cs : List Char, cs.length ≤ (cs.flatMap escape).length := by
    intro cs
    induction cs with
    | nil => exact Nat.le_refl 0
    | cons c cs ih =>
        rw [List.flatMap_cons, List.length_append, List.length_cons]
        have := hescape c
        omega
  have := hbody s.toList
  rw [toList_quote]
  simp only [List.length_cons, List.length_append, List.length_nil, String.length_toList] at this ⊢
  omega

/-! ## The characters of a written value -/

theorem toList_array (items : List Json) :
    (render (.array items)).toList = '[' :: ((renderItems items).toList ++ [']']) := by
  simp [render]

theorem toList_object (members : List (String × Json)) :
    (render (.object members)).toList = '{' :: ((renderMembers members).toList ++ ['}']) := by
  simp [render]

/-- A member as it is written. -/
def memberChars (m : String × Json) : List Char := (quote m.1).toList ++ ':' :: m.2.render.toList

/-- Behind the first item each one has a comma in front. -/
theorem toList_renderItems (j : Json) (rest : List Json) :
    (renderItems (j :: rest)).toList =
      j.render.toList ++ rest.flatMap fun j => ',' :: j.render.toList := by
  induction rest generalizing j with
  | nil => simp [renderItems]
  | cons j' rest ih => simp [renderItems, ih]

theorem toList_renderMembers (m : String × Json) (rest : List (String × Json)) :
    (renderMembers (m :: rest)).toList =
      memberChars m ++ rest.flatMap fun m => ',' :: memberChars m := by
  induction rest generalizing m with
  | nil => simp [renderMembers, memberChars]
  | cons m' rest ih => simp [renderMembers, memberChars, ih]

/-- What a written value may begin with. -/
def isStart (c : Char) : Bool := ['n', 't', 'f', '"', '[', '{'].contains c

theorem exists_start {room : Nat} {j : Json} (h : j.Plain room) :
    ∃ c cs, j.render.toList = c :: cs ∧ isStart c = true := by
  cases j with
  | null => exact ⟨_, _, rfl, rfl⟩
  | bool b => cases b <;> exact ⟨_, _, rfl, rfl⟩
  | number n => cases room <;> exact h.elim
  | string s => exact ⟨_, _, toList_quote s, rfl⟩
  | array items => exact ⟨_, _, toList_array items, rfl⟩
  | object members => exact ⟨_, _, toList_object members, rfl⟩

section Lengths

variable {α : Type} (f : α → List Char)

theorem length_le_separated (l : List α) : l.length ≤ (l.flatMap fun a => ',' :: f a).length := by
  induction l with
  | nil => exact Nat.le_refl 0
  | cons a l ih =>
      simp only [List.flatMap_cons, List.length_append, List.length_cons]
      omega

theorem length_le_separated_of_mem {l : List α} {a : α} (h : a ∈ l) :
    (f a).length ≤ (l.flatMap fun a => ',' :: f a).length := by
  induction l with
  | nil => cases h
  | cons b l ih =>
      simp only [List.flatMap_cons, List.length_append, List.length_cons]
      rcases List.mem_cons.mp h with rfl | hmem
      · omega
      · have := ih hmem
        omega

end Lengths

theorem length_le_renderItems {js : List Json} {j : Json} (h : j ∈ js) :
    j.render.toList.length ≤ (renderItems js).toList.length := by
  cases js with
  | nil => cases h
  | cons j' js =>
      rw [toList_renderItems, List.length_append]
      rcases List.mem_cons.mp h with rfl | hmem
      · exact Nat.le_add_right _ _
      · exact Nat.le_trans (length_le_separated_of_mem (fun j => j.render.toList) hmem)
          (Nat.le_add_left _ _)

theorem length_le_renderMembers {ms : List (String × Json)} {m : String × Json} (h : m ∈ ms) :
    (memberChars m).length ≤ (renderMembers ms).toList.length := by
  cases ms with
  | nil => cases h
  | cons m' ms =>
      rw [toList_renderMembers, List.length_append]
      rcases List.mem_cons.mp h with rfl | hmem
      · exact Nat.le_add_right _ _
      · exact Nat.le_trans (length_le_separated_of_mem memberChars hmem) (Nat.le_add_left _ _)

theorem count_le_renderItems {room : Nat} {js : List Json} (h : AllPlain room js) :
    js.length ≤ (renderItems js).toList.length := by
  cases js with
  | nil => exact Nat.zero_le _
  | cons j js =>
      obtain ⟨c, cs, hchars, -⟩ := exists_start h.1
      have := length_le_separated (fun j => j.render.toList) js
      rw [toList_renderItems, hchars]
      simp only [List.length_cons, List.length_append]
      omega

theorem count_le_renderMembers (ms : List (String × Json)) :
    ms.length ≤ (renderMembers ms).toList.length := by
  cases ms with
  | nil => exact Nat.zero_le _
  | cons m ms =>
      have := length_le_separated memberChars ms
      rw [toList_renderMembers, memberChars, toList_quote]
      simp only [List.length_cons, List.length_append]
      omega

theorem ne_of_isStart {c : Char} (h : isStart c = true) :
    isSpace c = false ∧ c ≠ ']' ∧ c ≠ '}' := by
  have hmem : c ∈ ['n', 't', 'f', '"', '[', '{'] := List.contains_iff_mem.mp h
  simp only [List.mem_cons, List.not_mem_nil, or_false] at hmem
  rcases hmem with rfl | rfl | rfl | rfl | rfl | rfl <;> decide

/-- There are no blanks in front of a written value. -/
theorem skipSpace_render {room : Nat} {j : Json} (h : j.Plain room) (rest : List Char) :
    skipSpace (j.render.toList ++ rest) = j.render.toList ++ rest := by
  obtain ⟨c, cs, hchars, hstart⟩ := exists_start h
  rw [hchars, List.cons_append, skipSpace,
    List.dropWhile_cons_of_neg (by simp [(ne_of_isStart hstart).1])]

theorem skipSpace_member (m : String × Json) (rest : List Char) :
    skipSpace (memberChars m ++ rest) = memberChars m ++ rest := by
  rw [memberChars, toList_quote]
  rfl

theorem skipSpace_comma (rest : List Char) : skipSpace (',' :: rest) = ',' :: rest := rfl

theorem skipSpace_colon (rest : List Char) : skipSpace (':' :: rest) = ':' :: rest := rfl

/-! ## Containers -/

section Containers

variable {bound : Bound} {inner : Reader Outline}

/-- The reader reads back what was written of the value. -/
def ReadsBack (inner : Reader Outline) (j : Json) : Prop :=
  ∀ rest, inner (j.render.toList ++ rest) = (j.outline, some rest)

theorem items_render {room : Nat} {js : List Json} (hplain : AllPlain room js)
    (hread : ∀ j ∈ js, ReadsBack inner j) {fuel : Nat} (hfuel : js.length < fuel)
    (done : List Outline) (rest : List Char) :
    items inner fuel done (js.flatMap (fun j => ',' :: j.render.toList) ++ ']' :: rest) =
      (done.reverse ++ outlineItems js, some rest) := by
  induction js generalizing fuel done with
  | nil =>
      obtain ⟨fuel, rfl⟩ := Nat.exists_eq_add_one.mpr (Nat.zero_lt_of_lt hfuel)
      simp [items, skipSpace, isSpace, outlineItems]
  | cons j js ih =>
      obtain ⟨fuel, rfl⟩ := Nat.exists_eq_add_one.mpr (Nat.zero_lt_of_lt hfuel)
      have hj := hread j List.mem_cons_self
      have hjs := ih hplain.2 (fun j' hj' => hread j' (List.mem_cons_of_mem j hj'))
        (Nat.lt_of_succ_lt_succ hfuel)
      rw [List.flatMap_cons, List.append_assoc, List.cons_append, items, skipSpace_comma]
      simp only [skipSpace_render hplain.1, hj _, hjs, List.reverse_cons, List.append_assoc,
        List.singleton_append, outlineItems]

theorem array_render {room : Nat} {js : List Json} (hplain : AllPlain room js)
    (hread : ∀ j ∈ js, ReadsBack inner j) (hbound : js.length ≤ bound) (rest : List Char) :
    array bound inner ((renderItems js).toList ++ ']' :: rest) = (outlineItems js, some rest) := by
  cases js with
  | nil => rfl
  | cons j js =>
      obtain ⟨c, cs, hchars, hstart⟩ := exists_start hplain.1
      have hj := hread j List.mem_cons_self
      have hjs := items_render hplain.2 (fun j' hj' => hread j' (List.mem_cons_of_mem j hj'))
        hbound [j.outline] rest
      rw [toList_renderItems, List.append_assoc, array, skipSpace_render hplain.1]
      split
      · rename_i heq
        rw [hchars] at heq
        exact absurd (List.cons.inj heq).1 (ne_of_isStart hstart).2.1
      · rw [hj]
        exact hjs

/-! ### Objects -/

theorem member_render {room : Nat} {m : String × Json} (hplain : m.2.Plain room)
    (hread : ReadsBack inner m.2) (hbound : m.1.length < bound) (rest : List Char) :
    member bound inner (memberChars m ++ rest) =
      (some (some m.1, m.2.outline), some rest) := by
  rw [memberChars, toList_quote, List.append_assoc, List.cons_append, List.append_assoc]
  rw [member, List.singleton_append, string?_escapes m.1 hbound]
  simp only [List.cons_append, skipSpace_colon, skipSpace_render hplain, hread _]

theorem members_render {room : Nat} {ms : List (String × Json)} (hplain : AllMembersPlain room ms)
    (hread : ∀ m ∈ ms, ReadsBack inner m.2) (hbound : ∀ m ∈ ms, m.1.length < bound) {fuel : Nat}
    (hfuel : ms.length < fuel) (done : List (Option String × Outline)) (rest : List Char) :
    members bound inner fuel done (ms.flatMap (fun m => ',' :: memberChars m) ++ '}' :: rest) =
      (done.reverse ++ outlineMembers ms, some rest) := by
  induction ms generalizing fuel done with
  | nil =>
      obtain ⟨fuel, rfl⟩ := Nat.exists_eq_add_one.mpr (Nat.zero_lt_of_lt hfuel)
      simp [members, skipSpace, isSpace, outlineMembers]
  | cons m ms ih =>
      obtain ⟨fuel, rfl⟩ := Nat.exists_eq_add_one.mpr (Nat.zero_lt_of_lt hfuel)
      have hm := member_render hplain.1 (hread m List.mem_cons_self) (hbound m List.mem_cons_self)
      have hms := ih hplain.2 (fun m' hm' => hread m' (List.mem_cons_of_mem m hm'))
        (fun m' hm' => hbound m' (List.mem_cons_of_mem m hm')) (Nat.lt_of_succ_lt_succ hfuel)
      rw [List.flatMap_cons, List.append_assoc, List.cons_append, members, skipSpace_comma]
      simp only [skipSpace_member, hm _, hms, List.reverse_cons, List.append_assoc,
        List.singleton_append, outlineMembers]

theorem object_render {room : Nat} {ms : List (String × Json)} (hplain : AllMembersPlain room ms)
    (hread : ∀ m ∈ ms, ReadsBack inner m.2) (hbound : ∀ m ∈ ms, m.1.length < bound)
    (hlength : ms.length ≤ bound) (rest : List Char) :
    object bound inner ((renderMembers ms).toList ++ '}' :: rest) =
      (outlineMembers ms, some rest) := by
  cases ms with
  | nil => rfl
  | cons m ms =>
      have hm := member_render hplain.1 (hread m List.mem_cons_self) (hbound m List.mem_cons_self)
      have hms := members_render hplain.2 (fun m' hm' => hread m' (List.mem_cons_of_mem m hm'))
        (fun m' hm' => hbound m' (List.mem_cons_of_mem m hm')) hlength [(some m.1, m.2.outline)]
        rest
      rw [toList_renderMembers, List.append_assoc, object, skipSpace_member]
      split
      · rename_i heq
        rw [memberChars, toList_quote] at heq
        cases heq
      · rw [hm]
        exact hms

end Containers

/-! ## Values -/

section Values

variable {bound : Bound} {room fuel : Nat}

theorem value_null : ReadsBack (value bound (fuel + 1) room) .null := by
  intro rest
  have hchars : (render .null).toList = ['n', 'u', 'l', 'l'] := by decide
  rw [hchars]
  rfl

theorem value_bool (b : Bool) : ReadsBack (value bound (fuel + 1) room) (.bool b) := by
  intro rest
  cases b with
  | true =>
      have hchars : (render (.bool true)).toList = ['t', 'r', 'u', 'e'] := by decide
      rw [hchars]
      rfl
  | false =>
      have hchars : (render (.bool false)).toList = ['f', 'a', 'l', 's', 'e'] := by decide
      rw [hchars]
      rfl

theorem value_string {s : String} (hbound : (render (.string s)).toList.length < bound) :
    ReadsBack (value bound (fuel + 1) room) (.string s) := by
  intro rest
  have hlength : s.length < bound := Nat.lt_trans (length_lt_quote s) hbound
  have hchars : (render (.string s)).toList ++ rest =
      '"' :: (s.toList.flatMap escape ++ '"' :: rest) := by
    rw [render, toList_quote]
    simp
  rw [hchars, value, valueWith, string?_escapes s hlength]
  rfl

/-- The items of an array are written with fewer characters, by two at least. -/
theorem length_item {js : List Json} {j : Json} (hj : j ∈ js) :
    j.render.toList.length + 2 ≤ (render (.array js)).toList.length := by
  have := length_le_renderItems hj
  rw [toList_array]
  simp only [List.length_cons, List.length_append, List.length_nil]
  omega

theorem value_array {js : List Json} (hplain : AllPlain room js)
    (hread : ∀ j ∈ js, ReadsBack (value bound fuel room) j)
    (hbound : (render (.array js)).toList.length < bound) :
    ReadsBack (value bound (fuel + 1) (room + 1)) (.array js) := by
  intro rest
  rw [toList_array] at hbound ⊢
  simp only [List.length_cons, List.length_append, List.length_nil] at hbound
  have hcount : js.length ≤ bound := by
    have := count_le_renderItems hplain
    omega
  have harray := array_render hplain hread hcount rest
  rw [List.cons_append, List.append_assoc, List.singleton_append, value, valueWith,
    Nat.add_sub_cancel, harray]
  rfl

/-- So are the names and the values of an object. -/
theorem length_member {ms : List (String × Json)} {m : String × Json} (hm : m ∈ ms) :
    m.1.length + 2 ≤ (render (.object ms)).toList.length ∧
      m.2.render.toList.length + 2 ≤ (render (.object ms)).toList.length := by
  have hchars := length_le_renderMembers hm
  have hname := length_lt_quote m.1
  rw [memberChars, List.length_append, List.length_cons] at hchars
  rw [toList_object]
  simp only [List.length_cons, List.length_append, List.length_nil]
  omega

theorem value_object {ms : List (String × Json)} (hplain : AllMembersPlain room ms)
    (hread : ∀ m ∈ ms, ReadsBack (value bound fuel room) m.2)
    (hbound : (render (.object ms)).toList.length < bound) :
    ReadsBack (value bound (fuel + 1) (room + 1)) (.object ms) := by
  intro rest
  have hnames : ∀ m ∈ ms, m.1.length < bound := fun m hm => by
    have := (length_member hm).1
    omega
  rw [toList_object] at hbound ⊢
  simp only [List.length_cons, List.length_append, List.length_nil] at hbound
  have hcount : ms.length ≤ bound := by
    have := count_le_renderMembers ms
    omega
  have hobject := object_render hplain hread hnames hcount rest
  rw [List.cons_append, List.append_assoc, List.singleton_append, value, valueWith,
    Nat.add_sub_cancel, hobject]
  rfl

end Values

mutual

theorem value_render {bound : Bound} : (j : Json) → ∀ room fuel : Nat, j.Plain room →
    j.render.toList.length < fuel + 1 → j.render.toList.length < bound →
    ReadsBack (value bound (fuel + 1) room) j
  | .null => fun _ _ _ _ _ => value_null
  | .bool b => fun _ _ _ _ _ => value_bool b
  | .number _ => fun room _ hplain _ _ => by cases room <;> exact hplain.elim
  | .string _ => fun _ _ _ _ hbound => value_string hbound
  | .array items => fun room fuel hplain hfuel hbound => by
      cases room with
      | zero => exact hplain.elim
      | succ room =>
          have hlength : ∀ j ∈ items,
              j.render.toList.length < fuel ∧ j.render.toList.length < bound := by
            intro j hj
            have := length_item hj
            exact ⟨by omega, by omega⟩
          exact value_array hplain (values_render items hplain hlength) hbound
  | .object members => fun room fuel hplain hfuel hbound => by
      cases room with
      | zero => exact hplain.elim
      | succ room =>
          have hlength : ∀ m ∈ members,
              m.2.render.toList.length < fuel ∧ m.2.render.toList.length < bound := by
            intro m hm
            have := (length_member hm).2
            exact ⟨by omega, by omega⟩
          exact value_object hplain (memberValues_render members hplain hlength) hbound

theorem values_render {bound : Bound} : (js : List Json) → {room fuel : Nat} →
    AllPlain room js →
    (∀ j ∈ js, j.render.toList.length < fuel ∧ j.render.toList.length < bound) →
    ∀ j ∈ js, ReadsBack (value bound fuel room) j
  | [], _, _, _, _ => fun _ hj => nomatch hj
  | j :: js, _, fuel, hplain, hlength => by
      obtain ⟨hown, hothers⟩ := List.forall_mem_cons.mp hlength
      obtain ⟨fuel, rfl⟩ := Nat.exists_eq_add_one.mpr (Nat.zero_lt_of_lt hown.1)
      have hj := value_render j _ fuel hplain.1 hown.1 hown.2
      exact List.forall_mem_cons.mpr ⟨hj, values_render js hplain.2 hothers⟩

theorem memberValues_render {bound : Bound} : (ms : List (String × Json)) → {room fuel : Nat} →
    AllMembersPlain room ms →
    (∀ m ∈ ms, m.2.render.toList.length < fuel ∧ m.2.render.toList.length < bound) →
    ∀ m ∈ ms, ReadsBack (value bound fuel room) m.2
  | [], _, _, _, _ => fun _ hm => nomatch hm
  | (name, j) :: ms, _, fuel, hplain, hlength => by
      obtain ⟨hown, hothers⟩ := List.forall_mem_cons.mp hlength
      obtain ⟨fuel, rfl⟩ := Nat.exists_eq_add_one.mpr (Nat.zero_lt_of_lt hown.1)
      have hj := value_render j _ fuel hplain.1 hown.1 hown.2
      exact List.forall_mem_cons.mpr ⟨hj, memberValues_render ms hplain.2 hothers⟩

end

end Read

/-- A written value is read back as a whole. -/
theorem read_render {j : Json} (h : j.Plain Read.maxDepth) : read j.render = (j.outline, true) := by
  have hlength := Nat.lt_succ_self j.render.toList.length
  have hvalue := Read.value_render j _ _ h hlength hlength []
  have hskip := Read.skipSpace_render h []
  rw [List.append_nil] at hvalue hskip
  rw [read, Read.first, hskip, hvalue]
  rfl

end AccessControl.Json

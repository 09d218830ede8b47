import AccessControl.Proofs.Reading
import AccessControl.Wire.Rule

/-!
# Rule sets that are kept as texts

A rule set is decoded from what was written of it (`RuleSet.readText_render`).
-/

namespace AccessControl

open AccessControl.Json

namespace Json

variable {α : Type} {write : α → Json} {decode : Decoder α}

theorem outlineItems_map (l : List α) :
    outlineItems (l.map write) = l.map fun a => (write a).outline := by
  induction l with
  | nil => rfl
  | cons a l ih => rw [List.map_cons, outlineItems, ih, List.map_cons]

/-- A list is decoded where its items are. -/
theorem Decoder.list_ofList {l : List α} (h : ∀ a ∈ l, decode (write a).outline = .ok a) :
    Decoder.list decode (ofList write l).outline = .ok l := by
  have hall : (l.map fun a => (write a).outline).mapM decode = .ok l := by
    induction l with
    | nil => rfl
    | cons a l ih =>
        rw [List.map_cons, List.mapM_cons, h a List.mem_cons_self,
          ih fun a' ha' => h a' (List.mem_cons_of_mem a ha')]
        rfl
  rw [ofList, outline, outlineItems_map, Decoder.list, hall]
  rfl

end Json

theorem Effect.decode_toJson (e : Effect) : decode e.toJson.outline = .ok e := by
  cases e <;> rfl

theorem RuleSource.decode_toJson (s : RuleSource) : decode s.toJson.outline = .ok s := by
  cases s <;> rfl

theorem Action.decode_toJson (a : Action) : decode a.toJson.outline = .ok a := by
  cases a <;> rfl

theorem ResourceType.decode_toJson (manner : Manner) (t : ResourceType) :
    decode manner t.toJson.outline = .ok t := by
  cases t <;> rfl

theorem OwnerField.decode_toJson (manner : Manner) (f : OwnerField) :
    decode manner f.toJson.outline = .ok f := by
  cases f <;> rfl

theorem TextSet.decode_toJson (s : TextSet) : decode s.toJson.outline = .ok s := by
  have hlist : Decoder.list Decoder.text (Json.ofTexts s.toList).outline = .ok s.toList :=
    Decoder.list_ofList fun _ _ => rfl
  rw [decode, toJson, hlist]
  exact congrArg Except.ok s.ofList_toList

theorem RuleSubject.decode_toJson (s : RuleSubject) : decode s.toJson.outline = .ok s := by
  cases s with
  | all => rfl
  | only t => cases t <;> rfl

namespace Json

theorem Decoder.variant_outline {α : Type} {table : List (String × Decoder α)} {kind : String}
    {decode : Decoder α} (hkind : table.lookup kind = some decode) {members : List (String × Json)}
    (hmembers : ∀ m ∈ members, m.1 ≠ kindName) :
    variant table (outline (.object ((kindName, .string kind) :: members))) =
      decode (outline (.object members)) := by
  have hvalue : value (outline (.object ((kindName, .string kind) :: members))) =
      .ok (.object ((kindName, .string kind) :: members)) := by
    rw [value, toJson?_outline]
  have hkindOf : (((kindName, .string kind) : String × Json) :: members).filter
      (fun m => m.1 = kindName) = [(kindName, .string kind)] := by
    simpa using hmembers
  have hrest : (((kindName, .string kind) : String × Json) :: members).filter
      (fun m => m.1 ≠ kindName) = members := by
    simpa using hmembers
  rw [variant, hvalue]
  simp only [bind, Except.bind, hkindOf, hrest, named, hkind]

namespace Fields

variable {α β : Type} {r : Record} {fields : Fields α} {decode : Decoder α} {name : String}
  {place : Nat} {o : Outline} {a : α}

theorem read_required (hfind : r.find? name = some (place, o)) (h : decode o = .ok a) :
    (required name decode).read r = .ok a := by
  simp only [required, hfind, h, Placed.ofDecoded]

theorem read_withDefault {default : α} (hfind : r.find? name = some (place, o))
    (h : decode o = .ok a) : (withDefault name default decode).read r = .ok a := by
  simp only [withDefault, hfind, h, Placed.ofDecoded]

theorem read_map (f : α → β) (h : fields.read r = .ok a) : (f <$> fields).read r = .ok (f a) :=
  congrArg (Placed.apply (.ok f)) h

theorem read_seq {makes : Fields (α → β)} {f : α → β} (hf : makes.read r = .ok f)
    (h : fields.read r = .ok a) : (makes <*> fields).read r = .ok (f a) := by
  change Placed.apply (makes.read r) (fields.read r) = .ok (f a)
  rw [hf, h]
  rfl

end Fields

/-- A record is decoded where its members are. -/
theorem Decoder.record_object {α : Type} {fields : Fields α}
    {members : List (Option String × Outline)} {a : α}
    (hcheck : Fields.checkMembers fields.names true 0 [] members = .ok ())
    (hread : fields.read (.ofMembers members) = .ok a) :
    record fields (.object members true) = .ok a := by
  rw [record, Fields.readChecked, hcheck, hread]
  rfl

end Json

open Json.Fields

theorem RuleCondition.decode_toJson (c : RuleCondition) : decode c.toJson.outline = .ok c := by
  cases c with
  | ownedBy fields user =>
      have hfields : Decoder.list (OwnerField.decode .afterwards)
          (ofList OwnerField.toJson fields).outline = .ok fields :=
        Decoder.list_ofList fun f _ => f.decode_toJson .afterwards
      refine (Decoder.variant_outline rfl (by simp [Decoder.kindName])).trans ?_
      exact Decoder.record_object rfl (read_seq (read_map ownedBy (read_required rfl hfields))
        (read_required rfl user.decode_toJson))
  | inTeams teams =>
      refine (Decoder.variant_outline rfl (by simp [Decoder.kindName])).trans ?_
      exact Decoder.record_object rfl (read_map inTeams (read_required rfl teams.decode_toJson))
  | inServices services =>
      refine (Decoder.variant_outline rfl (by simp [Decoder.kindName])).trans ?_
      exact Decoder.record_object rfl
        (read_map inServices (read_required rfl services.decode_toJson))
  | isResource id =>
      refine (Decoder.variant_outline rfl (by simp [Decoder.kindName])).trans ?_
      exact Decoder.record_object rfl (read_map isResource (read_required rfl rfl))
  | inOrganization organization =>
      refine (Decoder.variant_outline rfl (by simp [Decoder.kindName])).trans ?_
      exact Decoder.record_object rfl
        (read_map inOrganization (read_required rfl organization.decode_toJson))
  | activeOrganization => rfl
  | holdsRole key =>
      refine (Decoder.variant_outline rfl (by simp [Decoder.kindName])).trans ?_
      exact Decoder.record_object rfl (read_map holdsRole (read_required rfl rfl))

theorem Rule.decode_toJson (r : Rule) : decode r.toJson.outline = .ok r := by
  have hconditions : Decoder.list RuleCondition.decode
      (ofList RuleCondition.toJson r.conditions).outline = .ok r.conditions :=
    Decoder.list_ofList fun c _ => c.decode_toJson
  refine Decoder.record_object rfl (read_seq (read_seq (read_seq (read_seq (read_map Rule.mk ?_)
    ?_) ?_) ?_) ?_)
  · exact read_required rfl r.effect.decode_toJson
  · exact read_required rfl r.action.decode_toJson
  · exact read_required rfl r.subject.decode_toJson
  · exact read_withDefault rfl hconditions
  · exact read_required rfl r.source.decode_toJson

theorem RuleSet.decode_toJson (s : RuleSet) : decode s.toJson.outline = .ok s := by
  have hrules : Decoder.list Rule.decode (ofList Rule.toJson s.rules).outline = .ok s.rules :=
    Decoder.list_ofList fun r _ => r.decode_toJson
  exact Decoder.record_object rfl
    (read_seq (read_map RuleSet.mk (read_required rfl s.organization.decode_toJson))
      (read_required rfl hrules))

/-! ## Texts -/

theorem Json.plain_ofList {α : Type} {write : α → Json} {room : Nat} {l : List α}
    (h : ∀ a ∈ l, (write a).Plain room) : (ofList write l).Plain (room + 1) := by
  rw [ofList, Plain]
  induction l with
  | nil => rw [List.map_nil, AllPlain]; trivial
  | cons a l ih =>
      rw [List.map_cons, AllPlain]
      exact ⟨h a List.mem_cons_self, ih fun a' ha' => h a' (List.mem_cons_of_mem a ha')⟩

@[simp] theorem Json.plain_string (room : Nat) (s : String) : (Json.string s).Plain room := by
  simp only [Plain]

/-- An object has room for its members. -/
theorem Json.plain_object {room : Nat} {members : List (String × Json)} :
    (Json.object members).Plain (room + 1) ↔ ∀ m ∈ members, m.2.Plain room := by
  rw [Plain]
  induction members with
  | nil => simp [AllMembersPlain]
  | cons m members ih => simp [AllMembersPlain, ih]

theorem RuleSubject.plain_toJson (room : Nat) (s : RuleSubject) : s.toJson.Plain (room + 1) := by
  cases s <;> simp [toJson, ResourceType.toJson, plain_object]

theorem RuleCondition.plain_toJson (room : Nat) (c : RuleCondition) :
    c.toJson.Plain (room + 2) := by
  have htexts : ∀ s : TextSet, s.toJson.Plain (room + 1) := fun s =>
    plain_ofList fun t _ => plain_string room t
  cases c with
  | ownedBy fields user =>
      have hfields : (ofList OwnerField.toJson fields).Plain (room + 1) :=
        plain_ofList fun f _ => plain_string room f.name
      simp [toJson, plain_object, hfields, Id.toJson]
  | inTeams teams => simp [toJson, plain_object, htexts]
  | inServices services => simp [toJson, plain_object, htexts]
  | _ => simp [toJson, plain_object, Id.toJson]

theorem Rule.plain_toJson (room : Nat) (r : Rule) : r.toJson.Plain (room + 4) := by
  have hconditions : (ofList RuleCondition.toJson r.conditions).Plain (room + 3) :=
    plain_ofList fun c _ => c.plain_toJson room
  have hsubject : r.subject.toJson.Plain (room + 3) := r.subject.plain_toJson (room + 2)
  simp [toJson, plain_object, hconditions, hsubject, Effect.toJson, Action.toJson,
    RuleSource.toJson]

theorem RuleSet.plain_toJson (room : Nat) (s : RuleSet) : s.toJson.Plain (room + 6) := by
  have hrules : (ofList Rule.toJson s.rules).Plain (room + 5) :=
    plain_ofList fun r _ => r.plain_toJson room
  simp [toJson, plain_object, hrules, Id.toJson]

/-- A rule set that is kept as a text is read back. -/
theorem RuleSet.readText_render (s : RuleSet) : decode.readText s.toJson.render = .ok s := by
  have hread : read s.toJson.render = (s.toJson.outline, true) :=
    read_render (s.plain_toJson 121)
  rw [Decoder.readText, hread]
  simp only [s.decode_toJson]
  rfl

end AccessControl

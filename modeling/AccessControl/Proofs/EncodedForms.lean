import AccessControl.Proofs.SharedCache
import AccessControl.Proofs.Sources

/-!
# Encoded forms

A rule set, a role or a target is decoded from what it was encoded as, and comes out as it was.  The
parts are taken in their order: what a record holds is decoded under the names under which it was
encoded, a part that may be missing is encoded as `null`, and of the owners of a resource only those
that there are.

So a cache server gives back the rule set that was put in, which decides every check as before
(`encoded_forms_lossless`).
-/

namespace AccessControl

open Json Json.Fields

namespace Json

variable {α : Type} {decode : Decoder α} {write : α → Json} {r : Record} {name : String}
  {place : Nat} {o : Outline} {own : Option α}

/-- A part that may be missing is decoded where it is, if `null` does not stand for any that is
there. -/
theorem Decoder.nullOr_ofOption (hpart : ∀ a, decode (write a).outline = .ok a)
    (hnull : ∀ a, (write a).outline ≠ .null) (own : Option α) :
    decode.nullOr (ofOption write own).outline = .ok own := by
  cases own with
  | none => rfl
  | some a =>
      rw [ofOption, nullOr]
      · rw [hpart]
        rfl
      · exact hnull a

theorem Fields.read_nullable (hfind : r.find? name = some (place, o))
    (h : decode.nullOr o = .ok own) : (nullable name decode).read r = .ok own := by
  simp only [nullable, hfind, h, Placed.ofDecoded]

theorem Decoder.natural_ofNat {n most : Nat} (h : n ≤ most) :
    natural most (ofNat n).outline = .ok n := by
  have hbounds : (0 : Int) ≤ n ∧ (n : Int) ≤ most := ⟨Int.natCast_nonneg n, Int.ofNat_le.mpr h⟩
  simp only [natural, integerWithin, expecting, ofNat, outline, if_pos hbounds]
  rfl

theorem Decoder.byte_ofNat (b : UInt8) : byte (ofNat b.toNat).outline = .ok b := by
  have hmost : b.toNat ≤ UInt8.size - 1 := Nat.le_of_lt_succ b.toNat_lt
  rw [byte, natural_ofNat hmost]
  exact congrArg Except.ok UInt8.ofNat_toNat

theorem Decoder.nullOr_text (own : Option String) :
    text.nullOr (ofOption .string own).outline = .ok own :=
  nullOr_ofOption (fun _ => rfl) (fun _ h => by cases h) own

end Json

/-! ## Roles -/

theorem StoredPermission.decode_toJson (p : StoredPermission) : decode p.toJson.outline = .ok p :=
  Decoder.record_object rfl
    (read_seq (read_map StoredPermission.mk (read_required rfl rfl)) (read_required rfl rfl))

theorem RoleKey.decode_toJson (key : RoleKey) : decode key.toJson.outline = .ok key := by
  have hparse : (parse key.text).toOption = some key := by rw [parse_text]; rfl
  simp only [decode, toJson, outline, Decoder.textOf, Decoder.text, Decoder.expecting, bind,
    Except.bind, hparse]

theorem RolePriority.decode_toJson (p : RolePriority) : decode p.toJson.outline = .ok p := by
  have hint : Decoder.int64 p.toJson.outline = .ok (p.value : Int) := by
    have hbounds : (-(UInt64.size / 2 : Nat) : Int) ≤ p.value ∧
        (p.value : Int) ≤ (UInt64.size / 2 : Nat) - 1 := by
      have := p.le_max
      simp only [UInt64.size]
      omega
    simp only [Decoder.int64, Decoder.integerWithin, Decoder.expecting, toJson, outline,
      if_pos hbounds]
  rw [decode, hint]
  simp only [bind, Except.bind, parse_value]

theorem HourWindow.decode_toJson (w : HourWindow) : decode w.toJson.outline = .ok w :=
  Decoder.record_object rfl
    (read_seq (read_map HourWindow.mk (read_required rfl (Decoder.byte_ofNat w.start)))
      (read_required rfl (Decoder.byte_ofNat w.stop)))

theorem GrantConditions.decode_toJson (c : GrantConditions) : decode c.toJson.outline = .ok c := by
  have hhours : HourWindow.decode.nullOr (ofOption HourWindow.toJson c.hours).outline =
      .ok c.hours := Decoder.nullOr_ofOption HourWindow.decode_toJson (fun _ => nofun) c.hours
  refine Decoder.record_object rfl
    (read_seq (read_seq (read_seq (read_map GrantConditions.mk ?_) ?_) ?_) ?_)
  · exact read_withDefault rfl rfl
  · exact read_withDefault rfl rfl
  · exact read_withDefault rfl rfl
  · exact read_withDefault rfl hhours

theorem GrantScope.decode_toJson (s : GrantScope) : decode s.toJson.outline = .ok s := by
  have hservices : (Decoder.list .text).nullOr (ofOption ofTexts s.services).outline =
      .ok s.services :=
    Decoder.nullOr_ofOption (fun _ => Decoder.list_ofList fun _ _ => rfl) (fun _ => nofun)
      s.services
  exact Decoder.record_object rfl (read_map GrantScope.mk (read_withDefault rfl hservices))

theorem RoleGrant.decode_toJson (g : RoleGrant) : decode g.toJson.outline = .ok g := by
  refine Decoder.record_object rfl (read_seq (read_seq (read_map RoleGrant.mk ?_) ?_) ?_)
  · exact read_required rfl g.permission.decode_toJson
  · exact read_withDefault rfl g.conditions.decode_toJson
  · exact read_withDefault rfl g.scope.decode_toJson

theorem Role.decode_toJson (role : Role) : decode role.toJson.outline = .ok role := by
  have hgrants : Decoder.list RoleGrant.decode (ofList RoleGrant.toJson role.grants).outline =
      .ok role.grants := Decoder.list_ofList fun g _ => g.decode_toJson
  refine Decoder.record_object rfl (read_seq (read_seq (read_seq (read_seq (read_seq (read_seq
    (read_seq (read_map Role.mk ?_) ?_) ?_) ?_) ?_) ?_) ?_) ?_)
  · exact read_required rfl role.id.decode_toJson
  · exact read_required rfl role.organization.decode_toJson
  · exact read_required rfl role.key.decode_toJson
  · exact read_required rfl rfl
  · exact read_required rfl role.priority.decode_toJson
  · exact read_required rfl rfl
  · exact read_required rfl rfl
  · exact read_required rfl hgrants

/-! ## Resources and targets -/

namespace Owners

theorem ext_get {o o' : Owners} (h : ∀ f, o.get f = o'.get f) : o = o' := by
  obtain ⟨assignee, creator, user, owner⟩ := o
  obtain rfl : assignee = o'.assignee := h .assignee
  obtain rfl : creator = o'.creator := h .creator
  obtain rfl : user = o'.user := h .user
  obtain rfl : owner = o'.owner := h .owner
  rfl

/-- The owners under some of the attributes, as members. -/
def membersOf (own : Owners) (fields : List OwnerField) : List (String × Json) :=
  fields.filterMap fun f => (own.get f).map fun id => (f.name, id.toJson)

/-- Those of the attributes are put in, and the others stay. -/
theorem exists_decodeMembers (own : Owners) (fields : List OwnerField) (o : Owners) :
    ∃ o', decodeMembers o (outlineMembers (own.membersOf fields)) = .ok o' ∧
      ∀ f, o'.get f = if f ∈ fields then (own.get f).or (o.get f) else o.get f := by
  induction fields generalizing o with
  | nil => exact ⟨o, rfl, fun f => by simp⟩
  | cons f fields ih =>
      cases hown : own.get f with
      | none =>
          obtain ⟨o', hdecoded, hget⟩ := ih o
          refine ⟨o', by rw [membersOf, List.filterMap_cons, hown]; exact hdecoded, fun g => ?_⟩
          rw [hget]
          by_cases hg : g = f
          · simp [hg, hown]
          · simp [hg]
      | some id =>
          obtain ⟨o', hdecoded, hget⟩ := ih (o.set f id)
          refine ⟨o', ?_, fun g => ?_⟩
          · rw [membersOf, List.filterMap_cons, hown]
            simp only [Option.map_some, outlineMembers, decodeMembers, OwnerField.ofName?_name,
              Id.decode_toJson]
            exact hdecoded
          · rw [hget]
            by_cases hg : g = f
            · obtain rfl := hg
              simp [hown]
            · simp [hg, get_set_of_ne hg]

theorem decode_toJson (o : Owners) : decode o.toJson.outline = .ok o := by
  obtain ⟨o', hdecoded, hget⟩ := exists_decodeMembers o OwnerField.all {}
  obtain rfl : o' = o := ext_get fun f => by
    rw [hget, if_pos (by cases f <;> decide)]
    cases f <;> exact Option.or_none
  change (decodeMembers {} (outlineMembers (o'.membersOf OwnerField.all)) >>= completed true) = _
  rw [hdecoded]
  rfl

end Owners

theorem Resource.decode_toJson (manner : Manner) (r : Resource) :
    decode manner r.toJson.outline = .ok r := by
  refine Decoder.record_object rfl (read_seq (read_seq (read_seq (read_seq (read_seq (read_seq
    (read_seq (read_map Resource.mk ?_) ?_) ?_) ?_) ?_) ?_) ?_) ?_)
  · exact read_required rfl (r.resourceType.decode_toJson manner)
  · exact read_required rfl rfl
  · exact read_required rfl r.organization.decode_toJson
  · exact read_required rfl r.owners.decode_toJson
  · exact read_nullable rfl (Decoder.nullOr_text r.team)
  · exact read_nullable rfl (Decoder.nullOr_text r.service)
  · exact read_nullable rfl (Decoder.nullOr_text r.roleKey)
  · exact read_required rfl rfl

theorem Target.decode_toJson (target : Target) : decode target.toJson.outline = .ok target := by
  cases target with
  | ofType t =>
      refine (Decoder.variant_outline rfl (by simp [Decoder.kindName])).trans ?_
      exact Decoder.record_object rfl
        (read_map ofType (read_required rfl (t.decode_toJson .afterwards)))
  | resource r =>
      refine (Decoder.variant_outline rfl (by simp [Resource.toMembers, Decoder.kindName])).trans ?_
      change resource <$> Resource.decode .afterwards r.toJson.outline = _
      rw [r.decode_toJson .afterwards]
      rfl

/-! ## What a cache server gives back -/

namespace CacheServer

section Entries

variable {c : Cache} {organization organization' : OrganizationId} {user user' : UserId}
  {kept : Kept} {rules : RuleSet} {text : String} {ttl : Nat}

theorem exists_toList_entryKey (c : Cache) (kept : Kept) (organization : OrganizationId)
    (user : UserId) : ∃ rest, (kept.entryKey (c.address organization user)).toList =
      c.label.toList ++ (":rules:".toList ++ rest) := by
  simp only [Kept.entryKey, Cache.address, toString, String.toList_append, List.append_assoc]
  exact ⟨_, rfl⟩

/-- No rule set is kept in the place of a counter, whatever has been counted. -/
theorem entryKey_ne_epochKey :
    c.epochKey organization' ≠ kept.entryKey (c.address organization user) := by
  obtain ⟨rest, hrest⟩ := exists_toList_entryKey c kept organization user
  intro h
  have hlist := (congrArg String.toList h).symm
  rw [hrest, Cache.toList_epochKey, List.append_right_inj] at hlist
  cases hlist

theorem entryKey_ne_versionKey :
    c.versionKey organization' user' ≠ kept.entryKey (c.address organization user) := by
  obtain ⟨rest, hrest⟩ := exists_toList_entryKey c kept organization user
  intro h
  have hlist := (congrArg String.toList h).symm
  rw [hrest, Cache.toList_versionKey, List.append_right_inj] at hlist
  cases hlist

/-- What is put under the key of the present counts leaves the counts as they are. -/
theorem entryKey_put_entryKey :
    (kept.put (kept.entryKey (c.address organization user)) text).entryKey
      (c.address organization user) = kept.entryKey (c.address organization user) := by
  have hepoch : (kept.put (kept.entryKey (c.address organization user)) text).count
      (c.epochKey organization) = kept.count (c.epochKey organization) :=
    Kept.count_put_of_ne entryKey_ne_epochKey
  have hversion : (kept.put (kept.entryKey (c.address organization user)) text).count
      (c.versionKey organization user) = kept.count (c.versionKey organization user) :=
    Kept.count_put_of_ne entryKey_ne_versionKey
  simp only [Kept.entryKey, Cache.address] at hepoch hversion ⊢
  rw [hepoch, hversion]

theorem run_set_of_ttl (httl : ttl ≠ 0) : (c.set organization user rules ttl).run Kept.answer kept =
    (.ok (), kept.put (kept.entryKey (c.address organization user)) rules.toJson.render) := by
  have hanswer : Kept.answer (.write (c.address organization user) rules.toJson.render ttl) kept =
      (.ok (some (.integer 1)),
        kept.put (kept.entryKey (c.address organization user)) rules.toJson.render) := rfl
  simpa [Cache.set, httl] using run_effect "write capability cache entry" hanswer

theorem run_get_of_render
    (h : kept (kept.entryKey (c.address organization user)) = some rules.toJson.render) :
    (c.get organization user).run Kept.answer kept = (.ok (some rules), kept) := by
  rw [Cache.get, Program.run_bind, run_read, h]
  simp [Cache.decode, RuleSet.readText_render, Program.run_bind]

end Entries

end CacheServer

open CacheServer

/-- What is decoded from an encoded rule set, role or target is equal to it.  A rule set that is put
into the cache is kept as a text, and wherever a server has that text for the user, the very same
rule set is read from it again. -/
theorem encoded_forms_lossless :
    (∀ rules : RuleSet, RuleSet.decode.ofJson? rules.toJson = some rules) ∧
    (∀ role : Role, Role.decode.ofJson? role.toJson = some role) ∧
    (∀ target : Target, Target.decode.ofJson? target.toJson = some target) ∧
    ∀ (c : Cache) (organization : OrganizationId) (user : UserId) (rules : RuleSet) (kept : Kept)
      (ttl : Nat), ttl ≠ 0 → ∃ text later,
        (c.set organization user rules ttl).run Kept.answer kept = (.ok (), later) ∧
        later (later.entryKey (c.address organization user)) = some text ∧
        ∀ served : Kept, served (served.entryKey (c.address organization user)) = some text →
          (c.get organization user).run Kept.answer served = (.ok (some rules), served) := by
  refine ⟨fun rules => ?_, fun role => ?_, fun target => ?_, ?_⟩
  · rw [Decoder.ofJson?, rules.decode_toJson]
    rfl
  · rw [Decoder.ofJson?, role.decode_toJson]
    rfl
  · rw [Decoder.ofJson?, target.decode_toJson]
    rfl
  · intro c organization user rules kept ttl httl
    refine ⟨_, _, run_set_of_ttl httl, ?_, fun _ hserved => run_get_of_render hserved⟩
    rw [entryKey_put_entryKey, Kept.put_self]

namespace Sample

/-- A role for the night, whose one grant is narrowed in every way. -/
def nightWatch : Role where
  id := ⟨⟨9⟩⟩
  organization
  key := ⟨"night_watch", by decide⟩
  name := "Night \"watch\""
  priority := ⟨35, by decide⟩
  isSystem := false
  isEditable := true
  grants := [{
    permission := ⟨"Task", "update"⟩
    conditions := { ownOnly := true, timeRestricted := true, hours := some ⟨22, 6⟩ }
    scope := ⟨some ["desk", ""]⟩ }]

/-- A task with an owner, in a service and without a team. -/
def nightTask : Resource where
  resourceType := .task
  id := "42"
  organization
  owners := { creator := some viewer }
  service := some "desk"

end Sample

open Sample

/-- A role, a task and the rules of a viewer come out of their encoded forms as they were, the rules
also by way of a cache server. -/
theorem night_watch_lossless :
    Role.decode.ofJson? nightWatch.toJson = some nightWatch ∧
      Target.decode.ofJson? (Target.resource nightTask).toJson = some (.resource nightTask) ∧
      ∃ later, (Cache.set ⟨"cache"⟩ organization viewer (store.rules organization viewer ⟨0⟩)
          300).run Kept.answer (fun _ => none) = (.ok (), later) ∧
        (Cache.get ⟨"cache"⟩ organization viewer).run Kept.answer later =
          (.ok (some (store.rules organization viewer ⟨0⟩)), later) := by
  obtain ⟨-, hrole, htarget, hcache⟩ := encoded_forms_lossless
  obtain ⟨text, later, hset, htext, hget⟩ := hcache ⟨"cache"⟩ organization viewer
    (store.rules organization viewer ⟨0⟩) (fun _ => none) 300 (by decide)
  exact ⟨hrole nightWatch, htarget (.resource nightTask), later, hset, hget later htext⟩

end AccessControl

import AccessControl.Permission

/-!
# Permissions as texts

A permission is read from the name of its type, a dot and the name of its action.  The type may be
given by either of its names, and nothing may stand around the names or be written in another way
(`Permission.parse_exact`).

No action has a dot in its name.  So the last dot of a text is the only one at which it can come
apart into names that are known, and what is read there is what the names stand for where they are
stored.
-/

namespace AccessControl

theorem Action.dot_notMem_name (a : Action) : '.' ∉ a.name.toList := by
  cases a <;> decide

namespace ResourceType

variable {t : ResourceType} {s : String}

theorem ofName?_eq_some : ofName? s = some t ↔ s = t.name ∨ s = t.className := by
  constructor
  · exact eq_name_of_ofName?
  · rintro (rfl | rfl)
    · exact ofName?_name t
    · exact ofName?_className t

theorem parse_eq_ok : parse s = .ok t ↔ ofName? s = some t := by
  rw [parse]
  cases ofName? s <;> simp

end ResourceType

namespace Action

variable {a : Action} {s : String}

theorem ofName?_eq_some : ofName? s = some a ↔ s = a.name :=
  ⟨eq_name_of_ofName?, fun h => h ▸ ofName?_name a⟩

theorem parse_eq_ok : parse s = .ok a ↔ ofName? s = some a := by
  rw [parse]
  cases ofName? s <;> simp

end Action

/-- The names that stand for a permission. -/
theorem StoredPermission.resolve?_eq_some {names : StoredPermission} {p : Permission} :
    names.resolve? = some p ↔
      (names.resourceType = p.resourceType.name ∨ names.resourceType = p.resourceType.className) ∧
        names.action = p.action.name := by
  rw [← ResourceType.ofName?_eq_some, ← Action.ofName?_eq_some, resolve?]
  constructor
  · intro h
    obtain ⟨t, htype, h⟩ := Option.bind_eq_some_iff.mp h
    obtain ⟨a, haction, h⟩ := Option.bind_eq_some_iff.mp h
    obtain rfl := Option.some.inj h
    exact ⟨htype, haction⟩
  · rintro ⟨htype, haction⟩
    rw [htype, haction]
    rfl

namespace Permission

variable {s t a : String} {p : Permission}

/-- A text is taken apart at its last dot. -/
theorem split?_eq_some {names : StoredPermission} :
    split? s = some names ↔ s = names.key ∧ '.' ∉ names.action.toList := by
  have hkey : s = names.key ↔
      s.toList = names.resourceType.toList ++ '.' :: names.action.toList := by
    rw [← String.toList_inj, StoredPermission.key, String.toList_append, String.toList_append]
    simp
  rw [hkey, ← Text.splitLast?_eq_some, split?]
  constructor
  · intro h
    obtain ⟨parts, hparts, rfl⟩ := Option.map_eq_some_iff.mp h
    simpa using hparts
  · intro h
    simp [h]

/-- Names that stand for a permission are found where their text is taken apart. -/
theorem split?_of_resolve? {names : StoredPermission} (h : names.resolve? = some p) :
    split? names.key = some names := by
  refine split?_eq_some.mpr ⟨rfl, ?_⟩
  rw [(StoredPermission.resolve?_eq_some.mp h).2]
  exact Action.dot_notMem_name p.action

theorem parse_eq_ok : parse s = .ok p ↔
    p.isCataloged = true ∧ ∃ names, split? s = some names ∧ names.resolve? = some p := by
  rw [parse]
  cases hsplit : split? s with
  | none => simp
  | some names =>
      have hresolve : names.resolve? = some p ↔
          ResourceType.parse names.resourceType = .ok p.resourceType ∧
            Action.parse names.action = .ok p.action := by
        rw [StoredPermission.resolve?_eq_some, ResourceType.parse_eq_ok, Action.parse_eq_ok,
          ResourceType.ofName?_eq_some, Action.ofName?_eq_some]
      simp only [Option.some.injEq, exists_eq_left', hresolve]
      cases ResourceType.parse names.resourceType with
      | error fault => simp [bind, Except.bind]
      | ok t =>
          cases Action.parse names.action with
          | error fault => simp [bind, Except.bind]
          | ok a =>
              simp only [bind, Except.bind, Except.ok.injEq]
              constructor
              · intro h
                split at h
                · obtain rfl := Except.ok.inj h
                  exact ⟨‹_›, rfl, rfl⟩
                · cases h
              · rintro ⟨hcataloged, rfl, rfl⟩
                exact if_pos hcataloged

theorem parse_eq_ok_of_key {names : StoredPermission} (h : names.resolve? = some p) :
    parse names.key = .ok p ↔ p.isCataloged = true := by
  rw [parse_eq_ok, split?_of_resolve? h]
  exact and_iff_left ⟨names, rfl, h⟩

/-- The texts from which a permission is read are those of the names that stand for it. -/
theorem parse_eq_ok_iff_resolve? : parse s = .ok p ↔
    p.isCataloged = true ∧ ∃ names : StoredPermission, s = names.key ∧ names.resolve? = some p := by
  constructor
  · intro h
    obtain ⟨hcataloged, names, hsplit, hresolve⟩ := parse_eq_ok.mp h
    exact ⟨hcataloged, names, (split?_eq_some.mp hsplit).1, hresolve⟩
  · rintro ⟨hcataloged, names, rfl, hresolve⟩
    exact (parse_eq_ok_of_key hresolve).mpr hcataloged

/-- Names that stand for permissions are the same where their texts are. -/
theorem eq_of_key_eq {names names' : StoredPermission} {p' : Permission}
    (h : names.resolve? = some p) (h' : names'.resolve? = some p') (hkey : names.key = names'.key) :
    names = names' ∧ p = p' := by
  have hsplit := (split?_of_resolve? h).symm.trans (hkey ▸ split?_of_resolve? h')
  obtain rfl := Option.some.inj hsplit
  exact ⟨rfl, Option.some.inj (h.symm.trans h')⟩

/-- A text is read as a permission exactly when it is one of the names of its type, a dot and the
name of its action, and the permission is in the catalog: that is, when some dot takes the text
apart into names that are stored for the permission.  No text comes apart in two such ways, and each
permission of the catalog is read from its key. -/
theorem parse_exact (s : String) (p : Permission) :
    (parse s = .ok p ↔ p.isCataloged = true ∧
      ∃ t, (t = p.resourceType.name ∨ t = p.resourceType.className) ∧
        s = t ++ "." ++ p.action.name) ∧
    (parse s = .ok p ↔ p.isCataloged = true ∧
      ∃ t a, s = t ++ "." ++ a ∧ (StoredPermission.mk t a).resolve? = some p) ∧
    (∀ t a t' a' q q', s = t ++ "." ++ a → (StoredPermission.mk t a).resolve? = some q →
      s = t' ++ "." ++ a' → (StoredPermission.mk t' a').resolve? = some q' →
        t = t' ∧ a = a' ∧ q = q') ∧
    (p.isCataloged = true → parse p.key = .ok p) := by
  refine ⟨?_, ?_, ?_, ?_⟩
  · rw [parse_eq_ok_iff_resolve?]
    refine and_congr_right fun _ => ?_
    constructor
    · rintro ⟨⟨t, a⟩, rfl, hresolve⟩
      obtain ⟨ht, rfl⟩ := StoredPermission.resolve?_eq_some.mp hresolve
      exact ⟨t, ht, rfl⟩
    · rintro ⟨t, ht, rfl⟩
      exact ⟨⟨t, p.action.name⟩, rfl, StoredPermission.resolve?_eq_some.mpr ⟨ht, rfl⟩⟩
  · rw [parse_eq_ok_iff_resolve?]
    refine and_congr_right fun _ => ?_
    constructor
    · rintro ⟨⟨t, a⟩, hs, hresolve⟩
      exact ⟨t, a, hs, hresolve⟩
    · rintro ⟨t, a, hs, hresolve⟩
      exact ⟨⟨t, a⟩, hs, hresolve⟩
  · intro t a t' a' q q' hs hresolve hs' hresolve'
    obtain ⟨hnames, hq⟩ := eq_of_key_eq hresolve hresolve' (hs.symm.trans hs')
    obtain ⟨ht, ha⟩ := StoredPermission.mk.inj hnames
    exact ⟨ht, ha, hq⟩
  · exact (parse_eq_ok_of_key (resolve?_stored p)).mpr

/-- Nothing is trimmed off a text, and no letter is changed. -/
example : (parse " task.update", parse "TASK.update", parse "task.read.update") =
    (.error (.unknownResourceType " task"), .error (.unknownResourceType "TASK"),
      .error (.unknownResourceType "task.read")) := by
  rfl

/-- Both names of a type are read, and a text with one of them comes apart in one way. -/
theorem parse_pomodoroSession_update :
    parse "PomodoroSession.update" = .ok ⟨.pomodoroSession, .update⟩ ∧
      (∀ t a q, "PomodoroSession.update" = t ++ "." ++ a →
        (StoredPermission.mk t a).resolve? = some q → t = "PomodoroSession" ∧ a = "update") ∧
      parse "pomodoro_session.update" = .ok ⟨.pomodoroSession, .update⟩ := by
  obtain ⟨hgrammar, -, hunique, hkey⟩ :=
    parse_exact "PomodoroSession.update" ⟨.pomodoroSession, .update⟩
  refine ⟨hgrammar.mpr ⟨rfl, "PomodoroSession", .inr rfl, rfl⟩, fun t a q hs hresolve => ?_,
    hkey rfl⟩
  obtain ⟨ht, ha, -⟩ := hunique t a "PomodoroSession" "update" q ⟨.pomodoroSession, .update⟩ hs
    hresolve rfl rfl
  exact ⟨ht, ha⟩

end Permission

end AccessControl

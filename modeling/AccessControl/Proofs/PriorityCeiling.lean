import AccessControl.Proofs.Runs

/-!
# The priority ceiling

A priority moves when a role is assigned, created, copied, repriced or deleted.  Each of these is
checked against the priority that the actor has at that moment, so a single change brings nobody
above both the priority held before and that of the actor.  Over a whole run a group of users of
bounded priority therefore never gets beyond the bound, neither by themselves nor by each other.
-/

namespace AccessControl

namespace RolePriority

variable {p q r : RolePriority}

@[refl] theorem le_refl (p : RolePriority) : p ≤ p := Nat.le_refl p.value

theorem le_trans (h : p ≤ q) (h' : q ≤ r) : p ≤ r := Nat.le_trans h h'

end RolePriority

namespace Store

variable {s t : Store} {organization : OrganizationId} {user : UserId}

/-- The user has no priority, or one that is not above the bound. -/
def AtMost (s : Store) (organization : OrganizationId) (user : UserId) (bound : RolePriority) :
    Prop :=
  ∀ priority, s.priority? organization user = some priority → priority ≤ bound

/-! ## What a change does to the roles that members hold -/

/-- Priorities depend on the members and the roles alone. -/
theorem priority?_congr (hmembers : t.members = s.members) (hroles : t.roles = s.roles) :
    t.priority? organization user = s.priority? organization user := by
  have hrole : ∀ r, t.roleOf? organization r = s.roleOf? organization r := by
    intro r
    cases r with
    | legacy r => rfl
    | dynamic id => simp only [roleOf?, findRole, hroles]
  ext priority
  rw [priority?_eq_some, priority?_eq_some]
  simp only [findMember, hmembers, hrole]

theorem priority?_putDelegation (s : Store) (d : Delegation) :
    (s.putDelegation d).priority? organization user = s.priority? organization user :=
  priority?_congr rfl rfl

theorem priority?_putOverride (s : Store) (o : Override) :
    (s.putOverride o).priority? organization user = s.priority? organization user :=
  priority?_congr rfl rfl

theorem roleOf?_putRole {role : Role} {r : MemberRole} {base : BaseRole}
    (h : (s.putRole role).roleOf? organization r = some base) :
    s.roleOf? organization r = some base ∨
      organization = role.organization ∧ base = .ofRole role := by
  cases r with
  | legacy r => exact .inl h
  | dynamic id =>
      by_cases hid : id = role.id
      · obtain ⟨found, hfound, rfl⟩ := Option.map_eq_some_iff.mp h
        obtain ⟨hmem, hkey, rfl⟩ := findRole_eq_some.mp hfound
        rcases Table.mem_put.mp hmem with rfl | ⟨-, hne⟩
        · exact .inr ⟨rfl, rfl⟩
        · exact absurd (hkey.trans hid) hne
      · rw [roleOf?, findRole_putRole_of_ne hid] at h
        exact .inl h

theorem roleOf?_erase {id : RoleId} {r : MemberRole} {base : BaseRole}
    (h : ({ s with roles := s.roles.erase id } : Store).roleOf? organization r = some base) :
    s.roleOf? organization r = some base := by
  cases r with
  | legacy r => exact h
  | dynamic id' =>
      obtain ⟨found, hfound, rfl⟩ := Option.map_eq_some_iff.mp h
      obtain ⟨hmem, hkey, horganization⟩ := findRole_eq_some.mp hfound
      have hstored := findRole_eq_some.mpr ⟨(Table.mem_erase.mp hmem).1, hkey, horganization⟩
      rw [roleOf?, hstored]
      rfl

/-- After a role has been put in, every priority is as before or that of the role. -/
theorem priority?_putRole {role : Role} {priority : RolePriority}
    (h : (s.putRole role).priority? organization user = some priority) :
    s.priority? organization user = some priority ∨
      organization = role.organization ∧ priority = role.priority := by
  obtain ⟨m, base, hmember, hactive, hrole, rfl⟩ := priority?_eq_some.mp h
  rcases roleOf?_putRole hrole with hrole | ⟨horganization, rfl⟩
  · exact .inl (priority?_eq_some.mpr ⟨m, base, hmember, hactive, hrole, rfl⟩)
  · exact .inr ⟨horganization, rfl⟩

theorem priority?_erase {id : RoleId} {priority : RolePriority}
    (h : ({ s with roles := s.roles.erase id } : Store).priority? organization user =
      some priority) :
    s.priority? organization user = some priority := by
  obtain ⟨m, base, hmember, hactive, hrole, rfl⟩ := priority?_eq_some.mp h
  exact priority?_eq_some.mpr ⟨m, base, hmember, hactive, roleOf?_erase hrole, rfl⟩

/-- After a member has got another role, every priority is as before or that of the role. -/
theorem priority?_putMember {m : Member} {priority : RolePriority}
    (h : (s.putMember m).priority? organization user = some priority) :
    s.priority? organization user = some priority ∨
      organization = m.organization ∧
        ∃ base, s.roleOf? organization m.role = some base ∧ base.priority = priority := by
  obtain ⟨found, base, hmember, hactive, hrole, rfl⟩ := priority?_eq_some.mp h
  by_cases hkey : (organization, user) = m.key
  · obtain ⟨rfl, rfl⟩ := Prod.mk.inj hkey
    have hsame : m = found := Option.some.inj ((findMember_putMember_self s m).symm.trans hmember)
    exact .inr ⟨rfl, base, hsame ▸ hrole, rfl⟩
  · rw [findMember_putMember_of_ne hkey] at hmember
    exact .inl (priority?_eq_some.mpr ⟨found, base, hmember, hactive, hrole, rfl⟩)

end Store

/-! ## One change -/

/-- A change brings nobody above both the priority held before and that of the actor. -/
theorem StoreChange.priority_le {b : Backend} {s : Setting} {actor : Actor} {store : Store}
    {organization : OrganizationId} {user : UserId} {priority : RolePriority}
    (h : StoreChange b s actor store)
    (hpriority : store.priority? organization user = some priority) :
    b.store.priority? organization user = some priority ∨
      b.store.Within organization actor.user priority := by
  cases h with
  | nothing => exact .inl hpriority
  | role haction hpermitted horganization hwithin =>
      rcases Store.priority?_putRole hpriority with hsame | ⟨rfl, rfl⟩
      · exact .inl hsame
      · exact .inr (horganization ▸ hwithin)
  | roleErased hpermitted => exact .inl (Store.priority?_erase hpriority)
  | member h =>
      obtain ⟨stored, hstored, rfl, -⟩ := h.member
      obtain ⟨role, hrole, hwithin⟩ := h.role
      rw [h.store] at hpriority
      rcases Store.priority?_putMember hpriority with hsame | ⟨rfl, base, hbase, rfl⟩
      · exact .inl hsame
      · -- The member who gets the role is one of the actor's organization.
        have horganization := (Store.findMember_eq_some.mp hstored).2.1
        rw [Store.roleOf?, horganization, hrole] at hbase
        obtain rfl : BaseRole.ofRole role = base := Option.some.inj hbase
        exact .inr (horganization ▸ hwithin)
  | delegation h =>
      rw [h.store, Store.priority?_putDelegation] at hpriority
      exact .inl hpriority
  | delegationKept hmanaged =>
      rw [Store.priority?_putDelegation] at hpriority
      exact .inl hpriority
  | override h =>
      rw [h.store, Store.priority?_putOverride] at hpriority
      exact .inl hpriority
  | overrideKept hmanaged hgranted =>
      rw [Store.priority?_putOverride] at hpriority
      exact .inl hpriority

/-! ## Whole runs -/

/-- Over a run of users of bounded priority every priority stays below the bound or below where it
was before. -/
theorem Run.priority_le {users : UserId → Prop} {organization : OrganizationId}
    {bound : RolePriority} {b c : Backend}
    (h : Run (fun _ act => users act.actor.user) b c)
    (hbound : ∀ user, users user → b.store.AtMost organization user bound)
    {user : UserId} {priority : RolePriority}
    (hpriority : c.store.priority? organization user = some priority) :
    priority ≤ bound ∨
      ∃ old, b.store.priority? organization user = some old ∧ priority ≤ old := by
  -- The invariant is the claim itself, about all users at once.
  refine h.preserves (I := fun store => ∀ user priority,
      store.priority? organization user = some priority → priority ≤ bound ∨
        ∃ old, b.store.priority? organization user = some old ∧ priority ≤ old)
    (fun user priority hbegin => .inr ⟨priority, hbegin, RolePriority.le_refl priority⟩)
    ?_ user priority hpriority
  intro d act store hd hact hchange user priority hpriority
  rcases hchange.priority_le hpriority with hsame | ⟨own, hown, hle⟩
  · exact hd user priority hsame
  · -- The actor has stayed below the bound so far, and the new priority is below the actor's.
    have howned : own ≤ bound := by
      rcases hd act.actor.user own hown with hle | ⟨old, hold, hle⟩
      · exact hle
      · exact RolePriority.le_trans hle (hbound act.actor.user hact old hold)
    exact .inl (RolePriority.le_trans hle howned)

/-- Users of bounded priority cannot raise anybody above the bound, however they work together:
after any run of theirs whoever was below the bound still is, and nobody else is above the old
priority. -/
theorem Run.priority_ceiling (users : UserId → Prop) {organization : OrganizationId}
    {bound : RolePriority} {b c : Backend}
    (h : Run (fun _ act => users act.actor.user) b c)
    (hbound : ∀ user, users user → b.store.AtMost organization user bound) :
    (∀ user, b.store.AtMost organization user bound → c.store.AtMost organization user bound) ∧
      ∀ user old, b.store.priority? organization user = some old → bound < old →
        c.store.AtMost organization user old := by
  constructor
  · intro user huser priority hpriority
    rcases h.priority_le hbound hpriority with hle | ⟨old, hold, hle⟩
    · exact hle
    · exact RolePriority.le_trans hle (huser old hold)
  · intro user old hold habove priority hpriority
    rcases h.priority_le hbound hpriority with hle | ⟨old', hold', hle⟩
    · exact RolePriority.le_trans hle (Nat.le_of_lt habove)
    · obtain rfl : old' = old := Option.some.inj (hold'.symm.trans hold)
      exact hle

namespace Sample

/-- An administrator gives a viewer the role of members. -/
def promotion : Act where
  setting := { now := ⟨0⟩ }
  actor := actor admin
  operation := .assignRole viewer (roleId .member)

end Sample

open Sample

/-- The administrator does not get a viewer beyond the administrators' level. -/
theorem viewer_at_most_admin :
    Run (fun _ act => act.actor.user = admin) backend (promotion.after backend) ∧
      backend.store.priority? organization viewer = some .viewer ∧
      (promotion.after backend).store.AtMost organization viewer .admin := by
  have hrun : Run (fun _ act => act.actor.user = admin) backend (promotion.after backend) :=
    .act promotion (.refl backend) rfl
  have hviewer : backend.store.priority? organization viewer = some .viewer := rfl
  refine ⟨hrun, hviewer, (Run.priority_ceiling (· = admin) hrun ?_).1 viewer ?_⟩
  · rintro user rfl priority hpriority
    obtain rfl : RolePriority.admin = priority := Option.some.inj hpriority
    exact RolePriority.le_refl _
  · intro priority hpriority
    obtain rfl : RolePriority.viewer = priority := Option.some.inj (hviewer.symm.trans hpriority)
    decide

end AccessControl

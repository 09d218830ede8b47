import AccessControl.Proofs.Deletions
import AccessControl.Proofs.OwnerReassignment
import AccessControl.Proofs.RoleGrants

/-!
# Taking a permission away from a role

A permission is taken away by a program that looks for a grant which resolves to it, asks for its
removal and then reads the role again.  The program is the same whether the grants are removed in
memory or from the rows of a database.

In memory the removal finds what the program has found.  From the rows it removes only what has the
storage names of the permission, so a grant that is kept under the name of a class stays, and where
there is no other the program fails although the role has the permission
(`Administration.removal_from_rows`).
-/

namespace AccessControl

open Service Backend

/-- Two ways of answering run a program alike where its calls are answered alike. -/
theorem Program.Meets.run_congr {Call : Type} {Reply : Call → Type} {ξ α σ : Type}
    {D : Discipline Call Reply ξ} {x : ξ} {p : Program Call Reply α} {Q : Outcome α → ξ → Prop}
    {answer answer' : (c : Call) → σ → Outcome (Reply c) × σ} {s : σ} {I : ξ → σ → Prop}
    (hstep : ∀ x s c, I x s → D.allows x c → answer' c s = answer c s ∧
      ∃ y, D.leads x c (answer c s).1 y ∧ I y (answer c s).2)
    (h : Meets D x p Q) (hs : I x s) : p.run answer' s = p.run answer s := by
  induction p generalizing x s with
  | done r => rfl
  | call c next ih =>
      obtain ⟨hsame, y, hleads, hy⟩ := hstep x s c hs h.1
      rw [Program.run, Program.run, hsame]
      exact ih _ (h.2 _ y hleads) hy

/-! ## Backends that differ in the removal of grants -/

/-- What becomes of the store when a grant is removed. -/
abbrev GrantRemoval := Backend → OrganizationId → RoleId → Permission → Outcome Store

namespace GrantRemoval

def inMemory : GrantRemoval := fun b => b.store.removeGrant

/-- The rows are deleted at the time of the backend. -/
def fromRows : GrantRemoval := fun b => b.store.removeGrantRows b.wall

/-- What a call answers in order or not, where grants are removed in this way. -/
def answer (remove : GrantRemoval) : (c : Call) → Backend → Outcome c.Reply × Backend
  | .removeGrant organization id p, b =>
    match b.outage? (.removeGrant organization id p) with
    | some fault => (.error fault, b)
    | none => b.update (remove b organization id p)
  | c, b => b.answer c

/-- Run a program of the services. -/
def run {α : Type} (remove : GrantRemoval) (b : Backend) (p : Service α) : Outcome α × Backend :=
  Program.run remove.answer p b

variable {α β : Type} {remove : GrantRemoval} {b c : Backend} {p : Service α} {f : α → Service β}

theorem run_inMemory (b : Backend) (p : Service α) : inMemory.run b p = b.run p := by
  have hanswer : inMemory.answer = Backend.answer := by
    funext c b
    cases c <;> rfl
  rw [run, hanswer, Backend.run]

theorem run_bind_ok {a : α} (h : remove.run b p = (.ok a, c)) :
    remove.run b (p >>= f) = remove.run c (f a) :=
  Program.run_bind_ok h

theorem run_bind_error {fault : Fault} (h : remove.run b p = (.error fault, c)) :
    remove.run b (p >>= f) = (.error fault, c) :=
  Program.run_bind_error h

/-! ## Programs that remove no grants -/

/-- The program runs as it does in memory. -/
def RunsAlike (remove : GrantRemoval) (p : Service α) : Prop := ∀ b, remove.run b p = b.run p

theorem RunsAlike.ofOutcome (r : Outcome α) : remove.RunsAlike (Program.ofOutcome r) := fun _ => rfl

theorem RunsAlike.bind (h : remove.RunsAlike p) (hf : ∀ a, remove.RunsAlike (f a)) :
    remove.RunsAlike (p >>= f) := by
  intro b
  rcases hrun : b.run p with ⟨fault | a, c⟩
  · rw [run_bind_error ((h b).trans hrun), Service.run_bind_error hrun]
  · rw [run_bind_ok ((h b).trans hrun), Service.run_bind_ok hrun, hf a c]

theorem RunsAlike.attempt (h : remove.RunsAlike p) : remove.RunsAlike p.attempt := by
  intro b
  rw [run, Program.run_attempt, ← run, h b]
  exact (Program.run_attempt Backend.answer p b).symm

/-- A call that is not about the removal of a grant. -/
def Spares : Call → Prop
  | .removeGrant .. => False
  | _ => True

theorem answer_eq {call : Call} (h : Spares call) (b : Backend) :
    remove.answer call b = b.answer call := by
  cases call <;> first | rfl | exact h.elim

theorem runsAlike_ask {call : Call} (h : Spares call) : remove.RunsAlike (ask call) :=
  fun b => answer_eq h b

theorem runsAlike_tell {call : Call} (h : Spares call) : remove.RunsAlike (tell call) :=
  (runsAlike_ask h).attempt.bind fun _ => .ofOutcome (.ok ())

/-- Whoever looks around removes no grants. -/
theorem run_of_looks {organization : OrganizationId} {s : Setting} {F : α → Prop}
    (h : Looks organization s b.situation p F) : remove.run b p = b.run p := by
  refine Program.Meets.run_congr (I := fun x c => c.situation = x) ?_ h rfl
  rintro x c call rfl hlooks
  have hspares : Spares call := by cases call <;> trivial
  exact ⟨answer_eq hspares c, c.situation, ⟨rfl, c, rfl, rfl⟩, (hlooks.keeps c).situation⟩

end GrantRemoval

/-! ## The program -/

namespace Administration

variable {b : Backend} {s : Setting} {actor : Actor} {id : RoleId} {role : Role} {p : Permission}

/-- Nothing stands in the way of whoever may change the role. -/
theorem finishes_editableRole (hworking : b.broken = []) (h : Editable b s actor id role) :
    Finishes b (editableRole s actor id) fun r c => r = role ∧ Calm s b c := by
  refine (Authorization.finishes_require hworking .refl h.permitted).bind fun _ c hc => ?_
  have hc' : c.broken = [] := hc.broken.trans hworking
  refine (finishes_findRole role ?_ (hc.store ▸ h.found)).bind fun r d hd => ?_
  · simp [outage?, hc']
  obtain ⟨rfl, rfl⟩ := hd
  have hcheck : checkEditable r = .ok () := by simp [checkEditable, h.custom, h.editable]
  rw [hcheck]
  refine (finishes_requirePriority hc' (hc.store ▸ h.within)).bind fun _ e he => ?_
  exact Finishes.pure ⟨rfl, he ▸ hc⟩

section Removal

variable {remove : GrantRemoval}

theorem runsAlike_findRole : remove.RunsAlike (findRole actor id) := by
  have hspares : GrantRemoval.Spares (.findRole actor.organization id) := trivial
  refine .bind (GrantRemoval.runsAlike_ask hspares) fun role => ?_
  cases role <;> exact .ofOutcome _

theorem runsAlike_forgetOrganization :
    remove.RunsAlike (Authorization.forgetOrganization s actor.organization) := by
  rw [Authorization.forgetOrganization]
  split
  · exact .ofOutcome (.ok ())
  · exact GrantRemoval.runsAlike_tell trivial

theorem runsAlike_report (r : AuditRecord) : remove.RunsAlike (report s r) := by
  have hspares : GrantRemoval.Spares (.newId .auditEntry) := trivial
  refine .bind (.bind (GrantRemoval.runsAlike_ask hspares) fun i => ?_) fun _ => .ofOutcome (.ok ())
  have hspares (entry : AuditEntry) : GrantRemoval.Spares (.appendEntry entry) := trivial
  refine .bind (.attempt (GrantRemoval.runsAlike_ask (hspares _))) fun e => ?_
  cases e <;> exact .ofOutcome (.ok _)

/-- Behind the removal the role is read again, which succeeds. -/
theorem run_afterwards (remove : GrantRemoval) (s : Setting) {changed : Role} {detail : String}
    (hworking : b.broken = [])
    (hfound : b.store.findRole actor.organization id = some changed) :
    ∃ c, remove.run b (Authorization.forgetOrganization s actor.organization >>= fun _ =>
      reportRole s actor .rolePermissionRemoved id detail >>= fun _ => findRole actor id) =
        (.ok changed, c) ∧ c.store = b.store := by
  have halike : remove.RunsAlike (Authorization.forgetOrganization s actor.organization >>= fun _ =>
      reportRole s actor .rolePermissionRemoved id detail >>= fun _ => findRole actor id) :=
    .bind runsAlike_forgetOrganization fun _ => .bind (runsAlike_report _) fun _ =>
      runsAlike_findRole
  have hfinishes : Finishes b (Authorization.forgetOrganization s actor.organization >>= fun _ =>
      reportRole s actor .rolePermissionRemoved id detail >>= fun _ => findRole actor id)
      fun r c => r = changed ∧ c.store = b.store := by
    refine finishes_notice fun c hc => ?_
    have hcall : c.outage? (.findRole actor.organization id) = none := by
      simp [outage?, hc.broken, hworking]
    refine (finishes_findRole changed hcall (hc.store ▸ hfound)).mono fun r d hd => ?_
    exact ⟨hd.1, hd.2 ▸ hc.store⟩
  obtain ⟨r, c, hrun, rfl, hstore⟩ := hfinishes
  exact ⟨c, (halike b).trans hrun, hstore⟩

/-- The program comes to what the removal makes of the role.  Where the removal finds nothing the
program fails in the same way and leaves the store as it was. -/
theorem run_removePermission (remove : GrantRemoval) {gone : RoleGrant → Bool}
    (hworking : b.broken = []) (heditable : Editable b s actor id role)
    (hheld : (role.grantFor? p).isSome = true)
    (hremove : ∀ c : Backend, c.store = b.store → remove c actor.organization id p =
      b.store.removeGrants role (.grantNotStored id p.key) gone) :
    ((∃ g ∈ role.grants, gone g = true) →
      ∃ c, remove.run b (removePermission s actor id p) = (.ok (role.without gone), c) ∧
        c.store = b.store.putRole (role.without gone)) ∧
    ((∀ g ∈ role.grants, gone g = false) →
      ∃ c, remove.run b (removePermission s actor id p) = (.error (.grantNotStored id p.key), c) ∧
        c.store = b.store) := by
  -- Up to the removal the program only looks around, so that it runs as it does in memory.
  obtain ⟨r, c, hlooked, rfl, hc⟩ := finishes_editableRole hworking heditable
  have hc' : c.broken = [] := hc.broken.trans hworking
  have hchecked : remove.run b (editableRole s actor id) = (.ok r, c) := by
    rw [GrantRemoval.run_of_looks (looks_editableRole id), hlooked]
  obtain ⟨g, hg⟩ := Option.isSome_iff_exists.mp hheld
  have hremoved : remove.run c (ask (.removeGrant actor.organization id p)) =
      c.update (b.store.removeGrants r (.grantNotStored id p.key) gone) := by
    rw [← hremove c hc.store]
    change remove.answer (.removeGrant actor.organization id p) c = _
    simp [GrantRemoval.answer, outage?, hc']
  have hpassed : remove.run c (Program.ofOutcome (.ok ()) : Service Unit) = (.ok (), c) := rfl
  rw [removePermission, GrantRemoval.run_bind_ok hchecked, hg]
  dsimp only
  rw [GrantRemoval.run_bind_ok hpassed]
  constructor
  · intro hsome
    rw [Store.removeGrants, if_pos (List.any_eq_true.mpr hsome)] at hremoved
    obtain ⟨-, rfl, horganization⟩ := Store.findRole_eq_some.mp heditable.found
    have hfound : (b.store.putRole (r.without gone)).findRole actor.organization r.id =
        some (r.without gone) := by
      rw [← horganization]
      exact Store.findRole_putRole_self _ (r.without gone)
    obtain ⟨d, hrun, hd⟩ := run_afterwards remove s
      (b := { c with store := b.store.putRole (r.without gone) }) hc' hfound
    exact ⟨d, (GrantRemoval.run_bind_ok hremoved).trans hrun, hd⟩
  · intro hnone
    have hany : ¬ r.grants.any gone = true := by simpa using hnone
    rw [Store.removeGrants, if_neg hany] at hremoved
    exact ⟨c, GrantRemoval.run_bind_error hremoved, hc.store⟩

end Removal

/-- From the rows the grants of the role go that have the storage names of the permission.  That is
what goes in memory too just when no grant of the permission is kept under the name of a class.
Whoever may change a role that has the permission takes it away in memory.  From the rows it is
taken away where a grant has the storage names, and else the program fails. -/
theorem removal_from_rows (hfound : b.store.findRole actor.organization id = some role)
    (p : Permission) :
    (∀ r ∈ b.store.roles.rows, ∀ g, b.store.deletesGrant b.wall
      (Database.Roles.deleteGrant actor.organization id p.stored) r.id g = true ↔
        r = role ∧ g.permission = p.stored) ∧
    (b.store.removeGrantRows b.wall actor.organization id p =
      b.store.removeGrant actor.organization id p ↔
        ∀ g ∈ role.grants, g.permission ≠ p.underClass) ∧
    (b.broken = [] → Editable b s actor id role → (role.grantFor? p).isSome = true →
      (∃ c, b.run (removePermission s actor id p) =
        (.ok (role.without fun g => g.permission.resolve? = some p), c)) ∧
      ((∃ g ∈ role.grants, g.permission = p.stored) →
        ∃ c, GrantRemoval.fromRows.run b (removePermission s actor id p) =
          (.ok (role.without fun g => g.permission = p.stored), c)) ∧
      ((∀ g ∈ role.grants, g.permission ≠ p.stored) →
        ∃ c, GrantRemoval.fromRows.run b (removePermission s actor id p) =
          (.error (.grantNotStored id p.key), c) ∧ c.store = b.store)) := by
  refine ⟨?rows, Store.removeGrantRows_eq_removeGrant_iff hfound b.wall p, ?runs⟩
  case rows => exact fun r hr g => Store.deletesGrant_deleteGrant hfound hr b.wall p.stored g
  case runs =>
      intro hworking heditable hheld
      have hmemory := run_removePermission .inMemory hworking heditable hheld
        fun c hc => by rw [GrantRemoval.inMemory, hc, Store.removeGrant_eq hfound]
      have hrows := run_removePermission .fromRows hworking heditable hheld
        fun c hc => by rw [GrantRemoval.fromRows, hc, Store.removeGrantRows_eq hfound]
      refine ⟨?_, ?_, ?_⟩
      · obtain ⟨g, hg⟩ := Option.isSome_iff_exists.mp hheld
        have hmem : g ∈ role.grants := List.mem_of_find?_eq_some hg
        have hresolves : g.permission.resolve? = some p := by simpa using List.find?_some hg
        obtain ⟨c, hrun, -⟩ := hmemory.1 ⟨g, hmem, decide_eq_true hresolves⟩
        exact ⟨c, (GrantRemoval.run_inMemory b _).symm.trans hrun⟩
      · rintro ⟨g, hmem, hg⟩
        obtain ⟨c, hrun, -⟩ := hrows.1 ⟨g, hmem, decide_eq_true hg⟩
        exact ⟨c, hrun⟩
      · intro hnone
        exact hrows.2 fun g hg => decide_eq_false (hnone g hg)

end Administration

/-! ## Clerks -/

namespace Sample

/-- Tellers may read tasks and projects, the latter by a grant that is kept under the name of the
class. -/
def tellerRole : Role :=
  { clerkRole with
    grants := [{ permission := ⟨"task", "read"⟩ }, { permission := ⟨"Project", "read"⟩ }] }

/-- The small organization with that role. -/
def counting : Backend := { backend with store := store.putRole tellerRole }

end Sample

open Sample

/-- A grant of clerks is kept under the name of the class.  In memory it is taken away, and from the
rows it is not. -/
theorem clerks_keep_reading_in_rows :
    clerical.store.findRole organization clerkRole.id = some clerkRole ∧
      clerkRole.grantFor? ⟨.task, .read⟩ = some { permission := ⟨"Task", "read"⟩ } ∧
      (clerical.run undoubling).1 = .ok { clerkRole with grants := [] } ∧
      (Database.Roles.deleteGrant organization clerkRole.id ⟨"task", "read"⟩).deleted clerical.wall
        clerical.store.roleTables = [] ∧
      (GrantRemoval.fromRows.run clerical undoubling).1 =
        .error (.grantNotStored clerkRole.id "task.read") :=
  ⟨by decide +kernel, by decide, by decide +kernel, rfl, by decide +kernel⟩

/-- What tellers have under the storage names is taken away from the rows. -/
theorem tellers_stop_reading_tasks :
    counting.store.removeGrantRows counting.wall organization tellerRole.id ⟨.task, .read⟩ =
      counting.store.removeGrant organization tellerRole.id ⟨.task, .read⟩ ∧
    ∃ c, GrantRemoval.fromRows.run counting undoubling =
      (.ok { tellerRole with grants := [{ permission := ⟨"Project", "read"⟩ }] }, c) := by
  have hfound : counting.store.findRole (actor owner).organization tellerRole.id =
      some tellerRole := by decide +kernel
  have heditable : Administration.Editable counting { now := ⟨1⟩ } (actor owner) tellerRole.id
      tellerRole := {
    permitted := (by decide +kernel : (counting.rules { now := ⟨1⟩ } organization owner).permits
      .update (.ofType .role) = true)
    found := hfound
    custom := rfl
    editable := rfl
    within := ⟨.owner, by decide +kernel, by decide⟩ }
  obtain ⟨-, hsame, hruns⟩ := Administration.removal_from_rows (s := { now := ⟨1⟩ }) hfound
    ⟨.task, .read⟩
  refine ⟨hsame.mpr (by decide), ?_⟩
  exact (hruns rfl heditable (by decide)).2.1 (by decide)

end AccessControl

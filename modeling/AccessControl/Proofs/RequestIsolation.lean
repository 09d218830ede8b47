import AccessControl.Http.Handler
import AccessControl.Json.Write
import AccessControl.Proofs.Coherence
import AccessControl.Proofs.Verdict

/-!
# Requests stay in the organization of their path

A request for a check names the organization of its resource in up to three places: in the path, in
a member of the body and, where the resource is an organization, in the identifier of the resource.
What is permitted belongs to the organization of the path, whoever asks, and it makes no difference
to name that organization once more in the body (`Http.Request.Asks.isolated`).

The caller's rules decide, and no rule set reaches beyond its own organization.  Rules may come from
the cache, so it has to be known that those that are remembered for an organization are of that
organization (`Backend.Filled.rules_organization`).
-/

namespace AccessControl

open Service

/-! ## Where remembered rules belong -/

/-- Rules that are remembered for an organization are of that organization. -/
def Backend.KeepsOwn (b : Backend) : Prop :=
  ∀ organization user rules, b.cache.get organization user = some rules →
    rules.organization = organization

/-- The states whose cache was filled by the services: it was empty in the beginning, and tasks
were carried out one after the other.  Between two tasks remembered rules may expire, and everything
else may become different. -/
inductive Backend.Filled : Backend → Prop
  | empty {b : Backend} (hempty : b.cache = ⟨.empty⟩) : Filled b
  | task {b : Backend} (s : Setting) (task : Task) (h : Filled b) :
      Filled (b.run (task.perform s)).2
  | drift {b c : Backend} (h : Filled b)
      (hexpired : ∀ organization user rules, c.cache.get organization user = some rules →
        b.cache.get organization user = some rules) : Filled c

namespace Backend

variable {organization : OrganizationId} {s : Setting} {b : Backend} {z : Standing} {c : Call}

/-- Nothing else is remembered once rules are forgotten, or could not be. -/
theorem get_of_forgets {other : OrganizationId} {user : UserId} {rules : RuleSet}
    (hc : c.Forgets organization) (h : (b.answer c).2.cache.get other user = some rules) :
    b.cache.get other user = some rules := by
  cases hout : b.outage? c with
  | some fault =>
      rw [answer, hout] at h
      exact h
  | none => exact (hc.remembered hout h).2

/-- Whatever a service does that acts for one organization, what it has remembered is of the
organization for which it is remembered. -/
theorem KeepsOwn.answer (h : b.KeepsOwn) (hz : b.situation = z.situation)
    (hc : (conduct organization s).allows z c) : (b.answer c).2.KeepsOwn := by
  intro other user rules hget
  rcases hc with hforgets | ⟨-, hlooks | ⟨hchanges, -⟩⟩
  · exact h other user rules (get_of_forgets hforgets hget)
  · rw [← hz] at hlooks
    rcases hlooks.remembered (fun _ _ => s.now) hget with ⟨-, hrules⟩ | ⟨-, hkept⟩
    · rw [hrules, Store.organization_rules]
    · exact h other user rules hkept
  · rw [← hz] at hchanges
    rcases hchanges.answer_cases with ⟨fault, hrun⟩ | ⟨r, d, hrun, hchange⟩
    · rw [hrun] at hget
      exact h other user rules hget
    · rw [hrun, hchange.rest.2.1] at hget
      exact h other user rules hget

theorem KeepsOwn.after (h : b.KeepsOwn) (s : Setting) (task : Task) :
    (b.run (task.perform s)).2.KeepsOwn := by
  have hrun := Program.Meets.run Backend.answer
    (I := fun z d => d.situation = z.situation ∧ d.KeepsOwn) ?_ (task.behaves (s := s))
    (s := b) ⟨rfl, h⟩
  · obtain ⟨_, -, -, hown⟩ := hrun
    exact hown
  · rintro z d c ⟨hz, hown⟩ hc
    let z' : Standing := ⟨(d.answer c).2.situation,
      (z.stale ∪ c.outdated s (d.answer c).1) \ c.forgotten, z.spare - c.created⟩
    exact ⟨z', ⟨⟨d, hz, rfl, rfl⟩, rfl, rfl⟩, rfl, hown.answer hz hc⟩

theorem Filled.keepsOwn (h : b.Filled) : b.KeepsOwn := by
  induction h with
  | empty hempty =>
      intro organization user rules hget
      rw [hempty] at hget
      cases hget
  | task s task _ ih => exact ih.after s task
  | drift _ hexpired ih =>
      intro organization user rules hget
      exact ih organization user rules (hexpired organization user rules hget)

/-- Decisions in an organization are made by rules of that organization. -/
theorem Filled.rules_organization (h : s.cacheTtl = none ∨ b.Filled)
    (organization : OrganizationId) (user : Option UserId) :
    (b.rulesOf s organization user).organization = organization := by
  cases user with
  | none => rfl
  | some user =>
      have hresolved := Store.organization_rules b.store organization user s.now
      rcases h with hcache | hfilled
      · rw [rulesOf, rules_of_no_cache hcache, hresolved]
      · rw [rulesOf, rules, remembered?]
        split
        · cases hget : b.cache.get organization user with
          | none => exact hresolved
          | some rules => exact hfilled.keepsOwn organization user rules hget
        · exact hresolved

end Backend

namespace Authorization

variable {s : Setting} {b c : Backend} {organization : OrganizationId} {user : Option UserId}
  {action : Action} {target : Target} {e : Explanation}

/-- What is explained to a caller is explained by the rules that decide about the caller. -/
theorem eq_of_run_explain
    (h : b.run (explain s organization user action target) = (.ok e, c)) :
    e = (b.rulesOf s organization user).explain action target := by
  cases user with
  | none => exact (Except.ok.inj (congrArg Prod.fst h)).symm
  | some user =>
      have hlearns : Learns s b (explain s organization (some user) action target) _ :=
        learns_explain action target
      have hfound := hlearns b .refl
      rw [h] at hfound
      exact hfound.2

theorem eq_of_run_decide {context : RequestContext}
    (h : b.run (decide s organization user context action target) = (.ok e, c)) :
    e = (b.rulesOf s organization user).explain action target := by
  obtain ⟨e', d, hexplain, hrest⟩ := exists_of_run_bind h
  obtain ⟨_, d', -, hreturn⟩ := exists_of_run_bind hrest
  obtain rfl : e' = e := Except.ok.inj (congrArg Prod.fst hreturn)
  exact eq_of_run_explain hexplain

end Authorization

/-- What comes to a result has come to one at its first step. -/
theorem Outcome.exists_of_bind {α β : Type} {r : Outcome α} {f : α → Outcome β} {y : β}
    (h : (r >>= f) = .ok y) : ∃ a, r = .ok a ∧ f a = .ok y := by
  cases r with
  | error fault => cases h
  | ok a => exact ⟨a, rfl, h⟩

namespace Http

/-! ## Targets of requests -/

/-- The body with the organization in it. -/
def CheckBody.naming (body : CheckBody) (organization : OrganizationId) : CheckBody :=
  { body with target := { body.target with organization := some organization } }

section Target

variable {organization : OrganizationId} {body : TargetBody} {target : AccessControl.Target}
  {id : String}

/-- A single resource within an organization: an organization is that one, and any other resource
is not said to be elsewhere. -/
theorem TargetBody.names_of_within (h : body.toTarget organization = .ok target)
    (hwithin : target.within organization = true) (hid : Text.shown? body.resourceId = some id) :
    ∃ t, ResourceType.parse (Text.trim body.resourceType) = .ok t ∧
      (t = .organization → Id.parse id = .ok organization) ∧
      (t ≠ .organization → body.organization = none ∨ body.organization = some organization) := by
  obtain ⟨t, hparse, h⟩ := Outcome.exists_of_bind h
  simp only [hid] at h
  obtain ⟨r, hresource, h⟩ := Outcome.exists_of_bind h
  obtain rfl := Except.ok.inj h
  have hr : r.organization = organization := of_decide_eq_true hwithin
  refine ⟨t, hparse, fun htype => ?_, fun htype => ?_⟩
  · rw [plainResource, if_pos htype] at hresource
    obtain ⟨own, hown, hresource⟩ := Outcome.exists_of_bind hresource
    obtain rfl := Except.ok.inj hresource
    obtain rfl : own = organization := hr
    exact hown
  · rw [plainResource, if_neg htype] at hresource
    obtain rfl := Except.ok.inj hresource
    cases hnamed : body.organization with
    | none => exact .inl rfl
    | some named =>
        rw [hnamed] at hr
        exact .inr (congrArg some hr)

/-- To name the organization in which a resource is looked for makes no difference. -/
theorem CheckBody.toCheck_naming {body : CheckBody} (h : body.target.organization = none) :
    (body.naming organization).toCheck organization = body.toCheck organization := by
  have hplain : ∀ t id, (body.naming organization).target.plainResource organization t id =
      body.target.plainResource organization t id := by
    intro t id
    rw [TargetBody.plainResource, TargetBody.plainResource, h]
    rfl
  rw [toCheck, toCheck, TargetBody.toTarget, TargetBody.toTarget]
  simp only [hplain]
  rfl

end Target

/-! ## Responses -/

/-- What the body has under a name. -/
def Response.member? (response : Response) (name : String) : Option Json :=
  response.body.bind (·.get? name)

theorem Response.permitted?_ofFault (fault : Fault) :
    (Response.ofFault fault).member? "permitted" = none := by
  simp [member?, ofFault, refusal, Json.get?]

theorem Response.permitted?_ok (e : Explanation) :
    (Response.ok e.toJson).member? "permitted" = some (.bool e.permitted) := by
  rfl

/-! ## Requests for checks -/

section Asks

variable {c : Context} {r : Request} {caller : Caller} {organization : OrganizationId}
  {body : CheckBody} {b d : Backend} {response : Response}

/-- The caller asks for a check by the path of the organization. -/
def Request.Asks (r : Request) (caller : Caller) (organization : OrganizationId)
    (body : CheckBody) : Prop :=
  ∃ place id endpoint, Place.ofPath? r.target.path = some place ∧ place.callerOf r = .ok caller ∧
    place.route? r.method = some (.organization id endpoint) ∧
    (endpoint = .authorize ∨ endpoint = .explain) ∧ readId id = .ok organization ∧
    readBody r CheckBody.decode = .ok body

theorem run_settle {p : Service Response} (h : b.run (settle p) = (.ok response, d)) :
    b.run p = (.ok response, d) ∨ ∃ fault, response = .ofFault fault := by
  have hattempt : b.run p.attempt = (.ok (b.run p).1, (b.run p).2) := Program.run_attempt ..
  rw [settle, run_bind_ok hattempt] at h
  rcases hrun : b.run p with ⟨fault | found, d'⟩
  · rw [hrun] at h
    cases fault
    all_goals first
      | exact .inr ⟨_, (Except.ok.inj (congrArg Prod.fst h)).symm⟩
      | cases h
  · rw [hrun] at h
    exact .inl h

/-- A request that reaches the handler of an endpoint is answered by it. -/
theorem answerTo_of_handler {place : Place} {id : List Char} {endpoint : Endpoint}
    {p : Service Response} (hplace : Place.ofPath? r.target.path = some place)
    (hcaller : place.callerOf r = .ok caller)
    (hroute : place.route? r.method = some (.organization id endpoint))
    (hid : readId id = .ok organization)
    (hhandler : endpoint.handler c caller organization r = .ok p) : answerTo c r = settle p := by
  have hanswers : (Route.organization id endpoint).handler c r caller = .ok p := by
    rw [Route.handler, hid]
    exact hhandler
  simp only [answerTo, hplace, hcaller, hroute, hanswers]

/-- What is explained to the caller is explained by the rules that decide about the caller. -/
def Explains (c : Context) (caller : Caller) (organization : OrganizationId)
    (explain : Action → Target → Service Explanation) : Prop :=
  ∀ (b : Backend) action target e d, b.run (explain action target) = (.ok e, d) →
    e = (b.rulesOf c.setting organization caller.user).explain action target

/-- The explanation of the check that a body asks for. -/
def answerCheck (organization : OrganizationId) (explain : Action → Target → Service Explanation)
    (body : CheckBody) : Service Response := do
  let (action, target) ← .ofOutcome (body.toCheck organization)
  let e ← explain action target
  return .ok e.toJson

/-- A request for a check is answered by an explanation, which is the same for all bodies. -/
theorem Request.Asks.answerTo_eq (h : r.Asks caller organization body) (c : Context) :
    ∃ explain, Explains c caller organization explain ∧
      ∀ text body', readBody { r with body := text } CheckBody.decode = .ok body' →
        answerTo c { r with body := text } = settle (answerCheck organization explain body') := by
  obtain ⟨place, id, endpoint, hplace, hcaller, hroute, hendpoint, hid, -⟩ := h
  have hsame : ∀ text, place.callerOf { r with body := text } = .ok caller := by
    intro text
    cases place <;> exact hcaller
  rcases hendpoint with rfl | rfl
  · refine ⟨Authorization.decide c.setting organization caller.user caller.context,
      fun b action target e d => Authorization.eq_of_run_decide, ?_⟩
    intro text body' hbody
    refine answerTo_of_handler hplace (hsame text) hroute hid ?_
    rw [Endpoint.handler, hbody]
    rfl
  · refine ⟨Authorization.explain c.setting organization caller.user,
      fun b action target e d => Authorization.eq_of_run_explain, ?_⟩
    intro text body' hbody
    refine answerTo_of_handler hplace (hsame text) hroute hid ?_
    rw [Endpoint.handler, hbody]
    rfl

/-- Where the answer to a check says that it is permitted, the caller's rules permit it. -/
theorem Explains.permits {explain : Action → Target → Service Explanation}
    (h : Explains c caller organization explain)
    (hrun : b.run (answerCheck organization explain body) = (.ok response, d))
    (hpermitted : response.member? "permitted" = some (.bool true)) :
    ∃ action target, body.toCheck organization = .ok (action, target) ∧
      (b.rulesOf c.setting organization caller.user).permits action target = true := by
  obtain ⟨⟨action, target⟩, d', hcheck, hrest⟩ := exists_of_run_bind hrun
  obtain ⟨e, d'', hexplain, hreturn⟩ := exists_of_run_bind hrest
  obtain rfl := Except.ok.inj (congrArg Prod.fst hreturn)
  obtain rfl : b = d' := congrArg Prod.snd hcheck
  refine ⟨action, target, congrArg Prod.fst hcheck, ?_⟩
  rw [RuleSet.permits, ← h b action target e d'' hexplain]
  exact Json.bool.inj (Option.some.inj ((Response.permitted?_ok e).symm.trans hpermitted))

/-- A response that says that a check is permitted comes from rules that permit it. -/
theorem Request.Asks.permits (h : r.Asks caller organization body)
    (hresponse : (b.run (serve c r)).1 = .ok response)
    (hpermitted : response.member? "permitted" = some (.bool true)) :
    ∃ action target, body.toCheck organization = .ok (action, target) ∧
      (b.rulesOf c.setting organization caller.user).permits action target = true := by
  obtain ⟨explain, hexplains, hserved⟩ := h.answerTo_eq c
  obtain ⟨-, -, -, -, -, -, -, -, hbody⟩ := h
  have hrun : b.run (serve c r) = (.ok response, (b.run (serve c r)).2) := Prod.ext hresponse rfl
  obtain ⟨found, d, hfound, hreturn⟩ := exists_of_run_bind hrun
  obtain rfl : found = response := by
    have hsent := Except.ok.inj (congrArg Prod.fst hreturn)
    split at hsent
    · -- A response without a body says nothing.
      rw [← hsent] at hpermitted
      cases hpermitted
    · exact hsent
  have hanswers : answerTo c r = settle (answerCheck organization explain body) :=
    hserved r.body body hbody
  rw [hanswers] at hfound
  rcases run_settle hfound with hfound | ⟨fault, rfl⟩
  · exact hexplains.permits hfound hpermitted
  · rw [Response.permitted?_ofFault] at hpermitted
    cases hpermitted

/-- Whatever the cache holds that the services have filled, only what is in the organization of the
path is permitted: an organization by its identifier, and any other resource where the body names
that organization or none.  To name it in the body makes no difference. -/
theorem Request.Asks.isolated (h : r.Asks caller organization body) (c : Context) (b : Backend) :
    ((c.setting.cacheTtl = none ∨ b.Filled) → ∀ response id,
        (b.run (serve c r)).1 = .ok response →
        response.member? "permitted" = some (.bool true) →
        Text.shown? body.target.resourceId = some id →
        ∃ t, ResourceType.parse (Text.trim body.target.resourceType) = .ok t ∧
          (t = .organization → Id.parse id = .ok organization) ∧
          (t ≠ .organization → body.target.organization = none ∨
            body.target.organization = some organization)) ∧
      (body.target.organization = none → ∀ text,
        readBody { r with body := text } CheckBody.decode = .ok (body.naming organization) →
        b.run (serve c { r with body := text }) = b.run (serve c r)) := by
  constructor
  · intro hcache response id hresponse hpermitted hid
    obtain ⟨action, target, hcheck, hpermits⟩ := h.permits hresponse hpermitted
    have hwithin := (RuleSet.permits_iff.mp hpermits).1
    rw [Backend.Filled.rules_organization hcache] at hwithin
    obtain ⟨action', -, hcheck⟩ := Outcome.exists_of_bind hcheck
    obtain ⟨target', htarget, hcheck⟩ := Outcome.exists_of_bind hcheck
    obtain rfl : target' = target := (Prod.mk.inj (Except.ok.inj hcheck)).2
    exact TargetBody.names_of_within htarget hwithin hid
  · intro hnone text htext
    obtain ⟨explain, -, hserved⟩ := h.answerTo_eq c
    obtain ⟨-, -, -, -, -, -, -, -, hbody⟩ := h
    have hanswers : answerTo c r = settle (answerCheck organization explain body) :=
      hserved r.body body hbody
    rw [serve, serve, hserved text _ htext, hanswers, answerCheck, answerCheck,
      CheckBody.toCheck_naming hnone]

end Asks

end Http

namespace Sample

open Http

def context : Context := { setting := { now := ⟨0⟩ }, wall := ⟨0⟩ }

def projectBody : CheckBody where
  action := "read"
  target :=
    { resourceType := "project", resourceId := some "7", organization := none, owners := {},
      team := none, service := none, roleKey := none, active := none }

/-- The administrator asks whether a project can be read. -/
def projectCheck (members : List (String × Json)) : Request where
  method := "POST"
  target := { path := "/api/organizations/00000000-0000-0000-0000-000000000001/explain".toList }
  headers := [("content-type", "application/json"),
    ("x-actor-id", "00000000-0000-0000-0000-000000000002")]
  body := Json.render <| .object [("action", .string "read"), ("target", .object <|
    [("resource_type", .string "project"), ("resource_id", .string "7")] ++ members)]

/-- The response says that a check is permitted. -/
def saysPermitted : Outcome Response → Bool
  | .ok response =>
    match response.member? "permitted" with
    | some (.bool permitted) => permitted
    | _ => false
  | .error _ => false

theorem exists_of_saysPermitted {r : Outcome Response} (h : saysPermitted r = true) :
    ∃ response, r = .ok response ∧ response.member? "permitted" = some (.bool true) := by
  cases r with
  | error fault => cases h
  | ok response =>
      refine ⟨response, rfl, ?_⟩
      rw [saysPermitted] at h
      split at h
      · rename_i hmember
        rw [hmember, h]
      · cases h

end Sample

open Sample in
theorem project_permitted_in_organization :
    (∃ response, (backend.run (Http.serve context (projectCheck []))).1 = .ok response ∧
        response.member? "permitted" = some (.bool true)) ∧
      (∃ t, ResourceType.parse (Text.trim "project") = .ok t ∧
        (t = .organization → Id.parse "7" = .ok organization) ∧
        (t ≠ .organization → projectBody.target.organization = none ∨
          projectBody.target.organization = some organization)) ∧
      backend.run (Http.serve context (projectCheck [("organization_id", organization.toJson)])) =
        backend.run (Http.serve context (projectCheck [])) := by
  have hasks : (projectCheck []).Asks { user := some admin } organization projectBody := by
    have hroute : (Http.Place.ofPath? (projectCheck []).target.path).bind (·.route? "POST") =
        some (.organization "00000000-0000-0000-0000-000000000001".toList .explain) := by
      decide +kernel
    obtain ⟨place, hplace, hroute⟩ := Option.bind_eq_some_iff.mp hroute
    refine ⟨place, _, _, hplace, ?_, hroute, .inr rfl, by decide +kernel, by decide +kernel⟩
    cases place with
    | health => cases hroute
    | organization id endpoints =>
        rw [Http.Place.callerOf]
        decide +kernel
  obtain ⟨hwithin, hnaming⟩ := hasks.isolated context backend
  obtain ⟨response, hresponse, hpermitted⟩ := exists_of_saysPermitted
    (r := (backend.run (Http.serve context (projectCheck []))).1) (by decide +kernel)
  refine ⟨⟨response, hresponse, hpermitted⟩, ?_, ?_⟩
  · exact hwithin (.inl rfl) response "7" hresponse hpermitted (by decide +kernel)
  · exact hnaming rfl (projectCheck [("organization_id", organization.toJson)]).body
      (by decide +kernel)

end AccessControl

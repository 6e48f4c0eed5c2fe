import Vigil.Proofs.Api.Acceptance

/-!
# What requests mean

A request names a machine in its path, where blanks around the name do not count. A deletion is
asked for in one of two ways: by its method, or by the status in a report. Requests that mean the
same have the same effect, in whichever way they are written.
-/

namespace Vigil

namespace Api

variable {api : Api} {upgradable upgradable' : Bool} {r r' : Http.Request} {m : Monitor}
variable {raw raw' machine : String}

/-- A name in a path stands for a machine: decoded, it is the name of the machine with blanks around
it or without. -/
def Names (raw machine : String) : Prop :=
  ∃ name, Text.percentDecode? raw = some name ∧ Text.TrimsTo name.toList machine.toList

/-- What a request wants of a machine. -/
inductive Wish where
  | report (body : List UInt8)
  | delete

/-- A request wants something of a machine. -/
inductive Means (api : Api) (r : Http.Request) (machine : String) : Wish → Prop where
  | report {raw : String} (path : api.route? r = some (.report raw)) (method : r.method = "POST")
      (names : Names raw machine) : Means api r machine (.report r.body)
  /-- A report that asks for a deletion, whatever else it says. -/
  | strike {raw : String} {p : Payload} (path : api.route? r = some (.report raw))
      (method : r.method = "POST") (names : Names raw machine) (fits : r.body.length ≤ bodyLimit)
      (decodes : Json.decode Payload.decode (Text.codes r.body) = .ok p) (asks : p.AsksDeletion) :
      Means api r machine .delete
  | delete {raw : String} (path : api.route? r = some (.probe raw)) (method : r.method = "DELETE")
      (names : Names raw machine) : Means api r machine .delete

def named (machine : String) : Except Http.Response String :=
  if machine.isEmpty then .error (failure 400 "machine name is required") else .ok machine

def Wish.judge (machine : String) : Wish → Except Http.Response Submission
  | .report body =>
    if bodyLimit < body.length then
      .error (.ofText 413 "Failed to buffer the request body: length limit exceeded")
    else named machine >>= (submission · body)
  | .delete => named machine >>= fun machine => .ok (.delete machine)

theorem Names.exists_name (h : Names raw machine) :
    ∃ name, decodeName raw = .ok name ∧ Api.machine name = named machine := by
  obtain ⟨name, hname, htrims⟩ := h
  refine ⟨name, by rw [decodeName, hname], ?_⟩
  have htrim : Text.trim name = machine := by
    rw [Text.trim, Text.trimChars_eq_iff.2 htrims, String.ofList_toList]
  rw [Api.machine, htrim, named]

theorem judgeReport_eq (h : Names raw machine) (body : List UInt8) :
    judgeReport raw body = (Wish.report body).judge machine := by
  obtain ⟨name, hname, hmachine⟩ := h.exists_name
  simp only [judgeReport, hname, Wish.judge, ← hmachine, bind, Except.bind]

theorem judgeDelete_eq (h : Names raw machine) :
    judgeDelete raw = Wish.delete.judge machine := by
  obtain ⟨name, hname, hmachine⟩ := h.exists_name
  simp only [judgeDelete, hname, Wish.judge, ← hmachine, bind, Except.bind, pure, Except.pure]

theorem submission_of_asks {p : Payload} {body : List UInt8}
    (decodes : Json.decode Payload.decode (Text.codes body) = .ok p) (asks : p.AsksDeletion)
    (machine : String) : submission machine body = .ok (.delete machine) := by
  have hfilled : body.isEmpty = false := by
    cases body with
    | nil => cases decodes
    | cons => rfl
  rw [submission, hfilled, decodes]
  simp [Payload.submission, Payload.isDelete_iff.2 asks]

theorem judge_report_of_asks {p : Payload} {body : List UInt8} (fits : body.length ≤ bodyLimit)
    (decodes : Json.decode Payload.decode (Text.codes body) = .ok p) (asks : p.AsksDeletion) :
    (Wish.report body).judge machine = Wish.delete.judge machine := by
  rw [Wish.judge, Wish.judge, if_neg (Nat.not_lt.2 fits)]
  simp only [submission_of_asks decodes asks]

/-! ## The same meaning -/

theorem Means.exists_route {w : Wish} (h : Means api r machine w) :
    ∃ route, Protected api r route ∧
      ∀ upgradable, judgeRoute upgradable r route = verdict (w.judge machine) := by
  cases h with
  | report path method names =>
    exact ⟨_, .report path method, fun _ => by rw [judgeRoute, judgeReport_eq names]⟩
  | strike path method names fits decodes asks =>
    refine ⟨_, .report path method, fun _ => ?_⟩
    rw [judgeRoute, judgeReport_eq names, judge_report_of_asks fits decodes asks]
  | delete path method names =>
    exact ⟨_, .delete path method, fun _ => by rw [judgeRoute, judgeDelete_eq names]⟩

theorem Means.handle_eq {w : Wish} (h : Means api r machine w) (upgradable : Bool) (m : Monitor) :
    api.handle upgradable r m =
      match api.token.bind (Access.deny? · r) with
      | some denial => (api.expose denial.response, m, [])
      | none =>
        (api.expose (perform m (verdict (w.judge machine))).1,
          (perform m (verdict (w.judge machine))).2) := by
  obtain ⟨route, hprotected, hjudge⟩ := h.exists_route
  cases hdenial : api.token.bind (Access.deny? · r) with
  | some denial => rw [hprotected.handle_eq, hdenial]
  | none => rw [hprotected.handle_eq, hdenial, hjudge]

/-- Requests that present the same token, or none both of them, are let in alike. Where no token is
asked for all requests are. -/
def Alike (api : Api) (r r' : Http.Request) : Prop :=
  api.token ≠ none → ∀ t, Access.Presents r' t ↔ Access.Presents r t

theorem Alike.denial_eq (h : Alike api r r') :
    api.token.bind (Access.deny? · r') = api.token.bind (Access.deny? · r) := by
  cases htoken : api.token with
  | none => rfl
  | some token =>
    have hpresented : Access.presented? r' = Access.presented? r := by
      refine Option.ext fun t => ?_
      rw [Access.presented?_eq_some_iff, Access.presented?_eq_some_iff, h (by simp [htoken]) t]
    rw [Option.bind_some, Option.bind_some, Access.deny?, Access.deny?, hpresented]

/-- Requests that mean the same have the same effect and get the same response. -/
theorem Means.handle_congr {w : Wish} (h : Means api r machine w) (h' : Means api r' machine w)
    (alike : Alike api r r') (upgradable upgradable' : Bool) (m : Monitor) :
    api.handle upgradable' r' m = api.handle upgradable r m := by
  rw [h.handle_eq, h'.handle_eq, alike.denial_eq]

/-! ## Submissions -/

/-- A request that is let in submits something to the registry, if this runs. -/
def Submits (api : Api) (r : Http.Request) (x : Submission) : Prop :=
  ∃ upgradable route, api.route? r = some route ∧ api.judge upgradable r route = .submit x

theorem Protected.route_eq {route : Route} (h : Protected api r route) :
    api.route? r = some route := by
  cases h <;> assumption

theorem Protected.judge_eq {route : Route} (h : Protected api r route) (upgradable : Bool) :
    api.judge upgradable r route =
      match api.token.bind (Access.deny? · r) with
      | some denial => .respond denial.response
      | none => judgeRoute upgradable r route := by
  have hguarded : route.guarded = true := by cases h <;> rfl
  have htakes : route.takes r.method = true := by
    cases h with
    | report _ method | delete _ method | probes _ method | dashboard _ method =>
      rw [method]
      rfl
  cases hdenial : api.token.bind (Access.deny? · r) with
  | some denial => rw [judge, deny?, if_pos hguarded, hdenial]
  | none => rw [judge, deny?, if_pos hguarded, hdenial, if_pos htakes]

theorem verdict_eq_submit_iff {e : Except Http.Response Submission} {x : Submission} :
    verdict e = .submit x ↔ e = .ok x := by
  cases e <;> simp [verdict]

theorem Means.submits_iff {w : Wish} (h : Means api r machine w) {x : Submission} :
    Submits api r x ↔
      api.token.bind (Access.deny? · r) = none ∧ w.judge machine = .ok x := by
  obtain ⟨route, hprotected, hjudge⟩ := h.exists_route
  have hsubmit (upgradable : Bool) : api.judge upgradable r route = .submit x ↔
      api.token.bind (Access.deny? · r) = none ∧ w.judge machine = .ok x := by
    rw [hprotected.judge_eq, hjudge]
    cases api.token.bind (Access.deny? · r) <;> simp [verdict_eq_submit_iff]
  constructor
  · rintro ⟨upgradable, route', hroute', hx⟩
    cases hprotected.route_eq.symm.trans hroute'
    exact (hsubmit upgradable).1 hx
  · exact fun hx => ⟨true, route, hprotected.route_eq, (hsubmit true).2 hx⟩

/-- What a request does to the monitor is what it submits, or nothing. -/
theorem handle_effect (api : Api) (upgradable : Bool) (r : Http.Request) (m : Monitor) :
    (api.handle upgradable r m).2 = (m, []) ∨
      ∃ x, Submits api r x ∧ (api.handle upgradable r m).2 = (perform m (.submit x)).2 := by
  unfold handle
  dsimp only
  split
  · exact .inl rfl
  · cases hroute : api.route? r with
    | none => exact .inl rfl
    | some route =>
      dsimp only
      cases hjudge : api.judge upgradable r route with
      | respond response => exact .inl rfl
      | submit x => exact .inr ⟨x, ⟨upgradable, route, hroute, hjudge⟩, rfl⟩
      | list => exact .inl (by cases hsnapshot : m.snapshot <;> simp only [perform, hsnapshot])

theorem exists_names_or (raw : String) :
    (∃ machine, Names raw machine) ∨ ∃ response, decodeName raw = .error response := by
  cases hname : Text.percentDecode? raw with
  | some name =>
    refine .inl ⟨Text.trim name, name, hname, ?_⟩
    rw [Text.trim, String.toList_ofList]
    exact Text.trimsTo_trimChars _
  | none => exact .inr ⟨_, by rw [decodeName, hname]⟩

/-- Whatever is submitted is wanted of a machine. -/
theorem Submits.exists_means {x : Submission} (h : Submits api r x) :
    ∃ machine w, Means api r machine w ∧ w.judge machine = .ok x := by
  obtain ⟨upgradable, route, path, hjudge⟩ := h
  rw [judge] at hjudge
  split at hjudge
  · cases hjudge
  · split at hjudge
    · rename_i htakes
      cases route with
      | health | probes => cases hjudge
      | dashboard =>
        rw [judgeRoute] at hjudge
        split at hjudge <;> cases hjudge
      | probe raw =>
        have hx := verdict_eq_submit_iff.1 hjudge
        obtain ⟨machine, names⟩ | ⟨response, herror⟩ := exists_names_or raw
        · have hmethod : r.method = "DELETE" := by simpa [Route.takes, Route.methods] using htakes
          exact ⟨machine, .delete, .delete path hmethod names, judgeDelete_eq names ▸ hx⟩
        · rw [judgeDelete, herror] at hx
          cases hx
      | report raw =>
        have hx := verdict_eq_submit_iff.1 hjudge
        obtain ⟨machine, names⟩ | ⟨response, herror⟩ := exists_names_or raw
        · have hmethod : r.method = "POST" := by simpa [Route.takes, Route.methods] using htakes
          exact ⟨machine, _, .report path hmethod names, judgeReport_eq names r.body ▸ hx⟩
        · rw [judgeReport, herror] at hx
          cases hx
    · cases hjudge

end Api

/-- The machine that something is submitted for. -/
def Submission.machine : Submission → String
  | .report machine _ | .delete machine => machine

namespace Api

variable {api : Api} {r : Http.Request} {machine : String}

/-- What comes of a wish is for the machine of which it is wished, and this has a name. -/
theorem Wish.machine_of_judge {w : Wish} {x : Submission} (h : w.judge machine = .ok x) :
    machine ≠ "" ∧ x.machine = machine := by
  have hnamed {f : String → Except Http.Response Submission} (h : named machine >>= f = .ok x) :
      machine ≠ "" ∧ f machine = .ok x := by
    unfold named at h
    split at h
    · cases h
    · rename_i hne
      exact ⟨by simpa using hne, h⟩
  cases w with
  | delete =>
    obtain ⟨hne, hx⟩ := hnamed h
    cases hx
    exact ⟨hne, rfl⟩
  | report body =>
    rw [judge] at h
    split at h
    · cases h
    · obtain ⟨hne, hx⟩ := hnamed h
      refine ⟨hne, ?_⟩
      unfold submission at hx
      split at hx
      · cases hx
      · split at hx
        · cases hx
          unfold Payload.submission
          split <;> rfl
        · cases hx

theorem Means.bare {w : Wish} (h : Means api r machine w) : Text.Bare machine.toList := by
  cases h with
  | report _ _ names | strike _ _ names _ _ _ | delete _ _ names =>
    obtain ⟨name, -, htrims⟩ := names
    exact htrims.bare

end Api

end Vigil

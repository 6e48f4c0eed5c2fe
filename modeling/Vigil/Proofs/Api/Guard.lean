import Vigil.Proofs.Api.Reply

/-!
# The guard

Where a token is asked for, a request reaches its route if it presents this token, and only then.
Any other request is answered in one of two ways, which do not depend on the route, the body or the
monitor.
-/

namespace Vigil.Api

open Access (Presents)

variable {api : Api} {upgradable : Bool} {r : Http.Request} {m : Monitor} {route : Route}
variable {t : String} {response : Http.Response}

/-! ## What routes answer -/

theorem error_of_bind {α β : Type} {x : Except Http.Response α} {f : α → Except Http.Response β}
    (h : x >>= f = .error response) :
    x = .error response ∨ ∃ a, x = .ok a ∧ f a = .error response := by
  cases x with
  | error refusal =>
    cases h
    exact .inl rfl
  | ok a => exact .inr ⟨a, rfl, h⟩

theorem status_of_decodeName_error {raw : String} (h : decodeName raw = .error response) :
    response.status = 400 := by
  unfold decodeName at h
  split at h
  · cases h
  · cases h
    rfl

theorem status_of_machine_error {name : String} (h : machine name = .error response) :
    response.status = 400 := by
  unfold machine at h
  dsimp only at h
  split at h
  · cases h
    rfl
  · cases h

theorem status_of_submission_error {name : String} {body : List UInt8}
    (h : submission name body = .error response) : response.status = 400 := by
  unfold submission at h
  split at h
  · cases h
    rfl
  · split at h
    · cases h
    · cases h
      rfl

theorem status_of_judgeReport_error {raw : String} {body : List UInt8}
    (h : judgeReport raw body = .error response) :
    response.status = 400 ∨ response.status = 413 := by
  obtain hname | ⟨name, -, h⟩ := error_of_bind h
  · exact .inl (status_of_decodeName_error hname)
  · split at h
    · cases h
      exact .inr rfl
    · obtain hmachine | ⟨trimmed, -, hsubmission⟩ := error_of_bind h
      · exact .inl (status_of_machine_error hmachine)
      · exact .inl (status_of_submission_error hsubmission)

theorem status_of_judgeDelete_error {raw : String} (h : judgeDelete raw = .error response) :
    response.status = 400 := by
  obtain hname | ⟨name, -, h⟩ := error_of_bind h
  · exact status_of_decodeName_error hname
  · obtain hmachine | ⟨trimmed, -, h⟩ := error_of_bind h
    · exact status_of_machine_error hmachine
    · cases h

/-- No route answers like the guard. -/
theorem status_perform_judgeRoute (m : Monitor) (upgradable : Bool) (r : Http.Request)
    (route : Route) :
    (perform m (judgeRoute upgradable r route)).1.status ∉ [401, 403] := by
  have hsubmit (s : Submission) : (perform m (.submit s)).1.status ∉ [401, 403] := by
    cases h : m.submit [s] <;>
      simp [perform, h, accepted, failure, Http.Response.ofStatus, Http.Response.ofJson]
  cases route with
  | health => simp [judgeRoute, perform, healthy, Http.Response.ofJson]
  | probes =>
    cases h : m.snapshot <;> simp [judgeRoute, perform, h, listing, failure, Http.Response.ofJson]
  | probe raw =>
    cases h : judgeDelete raw with
    | ok s =>
      simp only [judgeRoute, h, verdict]
      exact hsubmit s
    | error response => simp [judgeRoute, h, verdict, perform, status_of_judgeDelete_error h]
  | report raw =>
    cases h : judgeReport raw r.body with
    | ok s =>
      simp only [judgeRoute, h, verdict]
      exact hsubmit s
    | error response =>
      rcases status_of_judgeReport_error h with hstatus | hstatus <;>
        simp [judgeRoute, h, verdict, perform, hstatus]
  | dashboard =>
    cases h : Handshake.answer upgradable r with
    | ok key => simp [judgeRoute, h, perform, Handshake.response]
    | error fault =>
      cases fault <;>
        simp [judgeRoute, h, perform, Handshake.Fault.response, Http.Response.ofText]

/-! ## Denials -/

theorem Protected.open (h : Protected api r route) :
    Protected { api with token := none } r route := by
  cases h with
  | report path method => exact .report path method
  | delete path method => exact .delete path method
  | probes path method => exact .probes path method
  | dashboard path method => exact .dashboard path method

theorem Protected.handle_open (h : Protected api r route) (upgradable : Bool) (m : Monitor) :
    Api.handle { api with token := none } upgradable r m =
      (api.expose (perform m (judgeRoute upgradable r route)).1,
        (perform m (judgeRoute upgradable r route)).2) :=
  h.open.handle_eq upgradable m

theorem Protected.handle_of_deny {denial : Denial} (h : Protected api r route)
    (ht : api.token = some t) (hd : Access.deny? t r = some denial) (upgradable : Bool)
    (m : Monitor) :
    api.handle upgradable r m = (api.expose denial.response, m, []) := by
  rw [h.handle_eq, ht, Option.bind_some, hd]

theorem Protected.handle_of_presents (h : Protected api r route) (ht : api.token = some t)
    (hp : Presents r t) (upgradable : Bool) (m : Monitor) :
    api.handle upgradable r m = Api.handle { api with token := none } upgradable r m := by
  rw [h.handle_open, h.handle_eq, ht, Option.bind_some, Access.deny?_eq_none_iff.2 hp]

/-- A guarded route behind a token. -/
structure GuardSpec (api : Api) (t : String) (upgradable : Bool) (r : Http.Request) (m : Monitor)
    (out : Http.Response × Monitor × List (Stamped Event)) : Prop where
  /-- The request is dealt with as if no token were asked for if it presents the token. -/
  passed_iff : out = Api.handle { api with token := none } upgradable r m ↔ Presents r t
  unauthorized_iff : out.1.status = 401 ↔ ¬∃ t', Presents r t'
  forbidden_iff : out.1.status = 403 ↔ ∃ t', Presents r t' ∧ t' ≠ t
  missing : (¬∃ t', Presents r t') → out = (api.expose Denial.missing.response, m, [])
  invalid : (∃ t', Presents r t' ∧ t' ≠ t) → out = (api.expose Denial.invalid.response, m, [])
  /-- Whoever is not let in gets the same answer on all guarded routes, at any time. -/
  uniform : ¬Presents r t → ∀ upgradable' r' m' route', Protected api r' route' →
    r'.headers = r.headers → (api.handle upgradable' r' m').1 = out.1

/-- No guarded route is reached without the token that is asked for. -/
theorem guarded_by_token (ht : api.token = some t) (h : Protected api r route)
    (upgradable : Bool) (m : Monitor) :
    GuardSpec api t upgradable r m (api.handle upgradable r m) := by
  have hopen : (Api.handle { api with token := none } upgradable r m).1.status ∉ [401, 403] := by
    rw [h.handle_open, status_expose]
    exact status_perform_judgeRoute m upgradable r route
  cases hd : Access.deny? t r with
  | none =>
    have hp := Access.deny?_eq_none_iff.1 hd
    rw [h.handle_of_presents ht hp]
    simp at hopen
    refine ⟨⟨fun _ => hp, fun _ => rfl⟩, ?_, ?_, ?_, ?_, fun hno => absurd hp hno⟩
    · simp [← Access.deny?_eq_missing_iff (t := t), hd, hopen]
    · simp [← Access.deny?_eq_invalid_iff, hd, hopen]
    · simp [← Access.deny?_eq_missing_iff (t := t), hd]
    · simp [← Access.deny?_eq_invalid_iff, hd]
  | some denial =>
    have hno : ¬Presents r t := by
      rw [← Access.deny?_eq_none_iff, hd]
      nofun
    have hdenied : denial.response.status ∈ [401, 403] := by cases denial <;> decide
    rw [h.handle_of_deny ht hd]
    refine ⟨⟨fun heq => ?_, fun hp => absurd hp hno⟩, ?_, ?_, ?_, ?_, ?_⟩
    · rw [← heq, status_expose] at hopen
      exact absurd hdenied hopen
    · rw [← Access.deny?_eq_missing_iff (t := t), hd, status_expose]
      cases denial <;> simp [Denial.response, Http.Response.ofText]
    · rw [← Access.deny?_eq_invalid_iff, hd, status_expose]
      cases denial <;> simp [Denial.response, Http.Response.ofText]
    · intro hmissing
      rw [← Access.deny?_eq_missing_iff (t := t), hd] at hmissing
      cases hmissing
      rfl
    · intro hinvalid
      rw [← Access.deny?_eq_invalid_iff, hd] at hinvalid
      cases hinvalid
      rfl
    · intro _ upgradable' r' m' route' h' headers
      rw [h'.handle_of_deny ht ((Access.deny?_of_headers headers).trans hd)]

/-- Three deletions: with the token, with another one, and with none. -/
theorem guarded_by_token_of_deletion :
    let api : Api := ⟨some "secret", true, true⟩
    let m := Monitor.start ⟨⟨1000⟩, ⟨1, 1, 1⟩, none, 0⟩ false
    let deletion (value : String) : Http.Request :=
      ⟨"DELETE", "/probe/web", [("Authorization", Text.utf8 value)], []⟩
    (∀ p ∈ [("Bearer secret ", 202), ("Bearer secre", 403), ("Bearer ", 401)],
      GuardSpec api "secret" true (deletion p.1) m (api.handle true (deletion p.1) m) ∧
        (api.handle true (deletion p.1) m).1.status = p.2) := by
  intro api m deletion p hp
  have hpath : Route.ofPath? true (deletion "").path = some (.probe "web") := by decide +kernel
  have hroute (value : String) : api.route? (deletion value) = some (.probe "web") := hpath
  refine ⟨guarded_by_token rfl (.delete (hroute p.1) rfl) true m, ?_⟩
  revert p
  decide +kernel

end Vigil.Api

import Vigil.Api.Router
import Vigil.Proofs.Api.Access

/-!
# Replies

What comes of a request once its route is known: it is denied, or else its route deals with it. A
response that is not an acceptance leaves the monitor as it is.
-/

namespace Vigil.Api

variable {api : Api} {upgradable : Bool} {r : Http.Request} {m : Monitor} {route : Route}

/-- A response as it leaves the router. -/
def expose (api : Api) (response : Http.Response) : Http.Response :=
  if api.crossOrigin then openTo response else response

theorem status_expose (api : Api) (response : Http.Response) :
    (api.expose response).status = response.status := by
  unfold expose
  split <;> rfl

theorem handle_of_route (hroute : api.route? r = some route) (hmethod : r.method ≠ "OPTIONS") :
    api.handle upgradable r m =
      (api.expose (dress route r.method (perform m (api.judge upgradable r route)).1),
        (perform m (api.judge upgradable r route)).2) := by
  simp only [handle, hroute, hmethod, beq_iff_eq, Bool.and_eq_true, and_false, if_false]
  rfl

/-- A request for a guarded route with the method that the route is there for. -/
inductive Protected (api : Api) (r : Http.Request) : Route → Prop where
  | report {machine : String} (path : api.route? r = some (.report machine))
      (method : r.method = "POST") : Protected api r (.report machine)
  | delete {machine : String} (path : api.route? r = some (.probe machine))
      (method : r.method = "DELETE") : Protected api r (.probe machine)
  | probes (path : api.route? r = some .probes) (method : r.method = "GET") :
      Protected api r .probes
  | dashboard (path : api.route? r = some .dashboard) (method : r.method = "GET") :
      Protected api r .dashboard

theorem Protected.handle_eq (h : Protected api r route) (upgradable : Bool) (m : Monitor) :
    api.handle upgradable r m =
      match api.token.bind (Access.deny? · r) with
      | some denial => (api.expose denial.response, m, [])
      | none =>
        (api.expose (perform m (judgeRoute upgradable r route)).1,
          (perform m (judgeRoute upgradable r route)).2) := by
  obtain ⟨hroute, hguarded, htakes, hoptions, hhead⟩ : api.route? r = some route ∧
      route.guarded = true ∧ route.takes r.method = true ∧ r.method ≠ "OPTIONS" ∧
        r.method ≠ "HEAD" := by
    cases h with
    | report path method | delete path method | probes path method | dashboard path method =>
      rw [method]
      exact ⟨path, rfl, by simp [Route.takes, Route.methods], by decide, by decide⟩
  have hdress (response : Http.Response) : dress route r.method response = response := by
    simp [dress, htakes, hhead]
  rw [handle_of_route hroute hoptions, hdress, judge, deny?, if_pos hguarded, if_pos htakes]
  cases api.token.bind (Access.deny? · r) <;> rfl

end Vigil.Api

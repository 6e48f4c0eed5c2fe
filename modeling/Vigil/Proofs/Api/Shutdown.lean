import Vigil.Proofs.Api.Acceptance
import Vigil.Proofs.Monitor.Operation
import Vigil.Proofs.Monitor.Run
import Vigil.Proofs.Traffic.Closing

/-!
# After a shutdown

Once a shutdown has been acknowledged nothing is raised and nothing is published any more, however
much time passes. Whoever asks the monitor for something is refused, and so are all requests that
would have been dealt with; only the health of the service is still told.
-/

namespace Vigil

namespace Monitor

/-- What can be asked of a monitor, by itself or by a request. -/
inductive Call where
  | operation (op : Operation)
  | request (upgradable : Bool) (r : Http.Request)

/-- The monitor after a call, and what is raised and published meanwhile. -/
def call (api : Api) (m : Monitor) :
    Call → Monitor × List (Stamped Event) × List (Stamped Snapshot)
  | .operation op => ((m.operate op).monitor, (m.operate op).events, (m.operate op).published)
  | .request upgradable r =>
    ((api.handle upgradable r m).2.1, (api.handle upgradable r m).2.2, [])

/-- The monitor after some calls, of which the latest is the first. -/
def afterCalls (api : Api) (m : Monitor) : List Call → Monitor
  | [] => m
  | c :: calls => ((m.afterCalls api calls).call api c).1

end Monitor

namespace Api

variable {api : Api} {r : Http.Request} {m : Monitor} {checks : List Check} {c : Check}
variable {asked : Submission → Prop} {response : Http.Response}

/-! ## Requests -/

theorem FirstRefusal.last (h : FirstRefusal (checks ++ [c]) response)
    (hmet : ∀ d ∈ checks, d.met) : c.refusal response := by
  induction checks with
  | nil =>
    cases h with
    | here unmet refusal => exact refusal
    | later met rest => cases rest
  | cons d checks ih =>
    rw [List.forall_mem_cons] at hmet
    cases h with
    | here unmet refusal => exact absurd hmet.1 unmet
    | later met rest => exact ih rest hmet.2

end Api

open Api

namespace Monitor

variable {api : Api} {m m' : Monitor} {events : List (Stamped Event)}

theorem perform_of_stopped (h : m.registry = none) (v : Verdict) : (perform m v).2 = (m, []) := by
  cases v with
  | respond response => rfl
  | submit x => simp only [perform, submit_of_stopped h]
  | list => simp only [perform, snapshot_of_stopped h]

end Monitor

end Vigil

import Vigil.Proofs.Api.Meaning
import Vigil.Proofs.Api.Shutdown
import Vigil.Proofs.Traffic.Ledger

/-!
# One machine, one probe

All that is submitted by requests goes by the names of machines without the blanks around them. So
requests that mean the same machine reach the same probe, a report that asks for a deletion does
what a deletion does, and no machine is ever registered under a name with blanks around it.
-/

namespace Vigil

/-- A name that machines go by: it is not empty and has no blank at either end. -/
structure ProperName (name : String) : Prop where
  ne_empty : name ≠ ""
  bare : Text.Bare name.toList

/-! ## Registered machines -/

namespace Registry

variable {r : Registry} {now : Nat} {x : Submission} {name : String}

theorem mem_names_ingest (h : name ∈ (r.ingest now [x]).1.probes.names) :
    name ∈ r.probes.names ∨ name = x.machine := by
  by_cases hname : name = x.machine
  · exact .inr hname
  · have hother : (r.ingest now [x]).1.probes.find? name = r.probes.find? name := by
      cases x with
      | report machine services => exact (find?_ingest_report ..).trans (if_neg hname)
      | delete machine => exact (find?_ingest_delete _).trans (if_neg hname)
    refine .inl (Classical.byContradiction fun hnot => ?_)
    rw [← Roster.find?_eq_none_iff, ← hother, Roster.find?_eq_none_iff] at hnot
    exact hnot h

theorem names_advance (r : Registry) (u : Nat) : (r.advance u).1.probes.names = r.probes.names := by
  rw [(passage_advance r u).probes_eq, Roster.names_map]

end Registry

namespace Api

variable {api : Api} {r : Http.Request} {m : Monitor} {registry : Registry} {x : Submission}

theorem Submits.properName (h : Submits api r x) : ProperName x.machine := by
  obtain ⟨machine, w, hmeans, hx⟩ := h.exists_means
  obtain ⟨hne, hmachine⟩ := Wish.machine_of_judge hx
  rw [hmachine]
  exact ⟨hne, hmeans.bare⟩

theorem perform_submit_of_running (h : m.registry = some registry) (x : Submission) :
    perform m (.submit x) = (accepted, { m with registry := some (registry.ingest m.now [x]).1 },
      (registry.ingest m.now [x]).2.map (Stamped.mk m.now)) := by
  simp only [perform, Monitor.submit, Monitor.reach, h]
  rfl

end Api

namespace Monitor

variable {api : Api} {m : Monitor} {c : Call} {calls : List Call}

/-- A call that comes from outside: a request, or anything else but a submission. -/
def Call.Outside : Call → Prop
  | .operation (.submit _) => False
  | _ => True

/-- All machines that are registered go by proper names. -/
def ProperlyNamed (m : Monitor) : Prop :=
  ∀ registry, m.registry = some registry → ∀ name ∈ registry.probes.names, ProperName name

theorem ProperlyNamed.submit {x : Submission} (h : m.ProperlyNamed) (hx : ProperName x.machine) :
    (Api.perform m (.submit x)).2.1.ProperlyNamed := by
  cases hregistry : m.registry with
  | none =>
    rw [perform_of_stopped hregistry]
    exact h
  | some registry =>
    rw [Api.perform_submit_of_running hregistry]
    rintro _ ⟨rfl⟩ name hname
    obtain hname | rfl := Registry.mem_names_ingest hname
    · exact h registry hregistry name hname
    · exact hx

theorem ProperlyNamed.call (h : m.ProperlyNamed) (hc : c.Outside) :
    (m.call api c).1.ProperlyNamed := by
  cases c with
  | request upgradable r =>
    obtain heq | ⟨x, hx, heq⟩ := Api.handle_effect api upgradable r m
    · rw [Monitor.call, heq]
      exact h
    · rw [Monitor.call, heq]
      exact h.submit hx.properName
  | operation op =>
    intro registry hregistry
    obtain ⟨r, hr, turn⟩ := exists_turn (Option.isSome_of_eq_some hregistry)
    change (m.operate op).monitor.registry = some registry at hregistry
    generalize (m.operate op).monitor = m' at turn hregistry
    cases turn with
    | submit batch => exact absurd hc id
    | snapshot | state => exact h registry hregistry
    | advance span =>
      cases hregistry
      rw [Registry.names_advance]
      exact h r hr

theorem properlyNamed_start (s : Settings) (dashboard : Bool) :
    (Monitor.start s dashboard).ProperlyNamed := by
  intro registry hregistry name hname
  unfold start at hregistry
  dsimp only at hregistry
  split at hregistry
  · cases hregistry
  · cases hregistry
    simp [Registry.start, Roster.names_empty] at hname

theorem ProperlyNamed.afterCalls (h : m.ProperlyNamed) (hcalls : ∀ c ∈ calls, c.Outside) :
    (m.afterCalls api calls).ProperlyNamed := by
  induction calls with
  | nil => exact h
  | cons c calls ih =>
    rw [List.forall_mem_cons] at hcalls
    exact (ih hcalls.2).call hcalls.1

end Monitor

namespace Traffic

variable {s : Settings} {log : Log} {σ : State} {machine : String}

/-- A machine that is registered has reported. -/
theorem Run.exists_submitted (h : Run s log σ) (hregistered : σ.handles machine ≠ none) :
    ∃ m ∈ log.submitted, m.submission.machine = machine := by
  obtain ⟨hd, hhandle⟩ := Option.ne_none_iff_exists'.1 hregistered
  obtain ⟨i, hi, -⟩ := (h.ledger.accounted machine hd hhandle).routed
  obtain ⟨services, hservices⟩ := hi.1.1
  obtain ⟨m, hm, hsubmission⟩ := List.mem_map.1 (List.mem_of_getElem? hservices)
  refine ⟨m, ?_, by rw [hsubmission]; rfl⟩
  rw [h.queue]
  exact List.mem_append_left _ hm

end Traffic

namespace Api

variable {api : Api} {r r' : Http.Request} {m : Monitor} {machine : String}
variable {upgradable : Bool}

/-! ## Deletions -/

structure DeletionSpec (machine : String) (m : Monitor)
    (out : Http.Response × Monitor × List (Stamped Event)) : Prop where
  /-- If it is accepted the machine is not registered any more. -/
  deleted : out.1.status = 202 → ∀ registry', out.2.1.registry = some registry' →
    registry'.probes.find? machine = none
  /-- No machine is registered by it and no probe is changed: the one of the machine may go, and all
  others stay as they are. -/
  others : ∀ registry registry', m.registry = some registry → out.2.1.registry = some registry' →
    ∀ other, registry'.probes.find? other = registry.probes.find? other ∨
      other = machine ∧ registry'.probes.find? other = none
  silent : Monitor.alerts out.2.2 = []

theorem deletionSpec_of_unchanged {response : Http.Response} (h : response.status ≠ 202)
    (machine : String) (m : Monitor) : DeletionSpec machine m (response, m, []) where
  deleted := fun haccepted => absurd haccepted h
  others := by
    intro registry registry' hregistry hregistry' other
    cases hregistry.symm.trans hregistry'
    exact .inl rfl
  silent := rfl

theorem deletionSpec_perform (api : Api) (machine : String) (m : Monitor) :
    DeletionSpec machine m (api.expose (perform m (.submit (.delete machine))).1,
      (perform m (.submit (.delete machine))).2) := by
  cases hregistry : m.registry with
  | none =>
    simp only [perform, Monitor.submit_of_stopped hregistry]
    exact deletionSpec_of_unchanged (by rw [status_expose]; decide) machine m
  | some registry =>
    rw [perform_submit_of_running hregistry]
    refine ⟨fun _ => ?_, ?_, ?_⟩
    · rintro _ ⟨rfl⟩
      rw [Registry.find?_ingest_delete, if_pos rfl]
    · rintro registry₀ _ hregistry₀ ⟨rfl⟩ other
      cases hregistry.symm.trans hregistry₀
      rw [Registry.find?_ingest_delete]
      split
      · rename_i hother
        exact .inr ⟨hother, rfl⟩
      · exact .inl rfl
    · rw [Monitor.alerts_stamp, Registry.alerts_ingest_delete]
      rfl

theorem Means.deletionSpec (h : Means api r machine .delete) (upgradable : Bool) (m : Monitor) :
    DeletionSpec machine m (api.handle upgradable r m) := by
  rw [h.handle_eq]
  cases api.token.bind (Access.deny? · r) with
  | some denial =>
    refine deletionSpec_of_unchanged ?_ machine m
    rw [status_expose]
    cases denial <;> decide
  | none =>
    dsimp only
    rw [Wish.judge, named]
    split
    · refine deletionSpec_of_unchanged ?_ machine m
      rw [status_expose]
      change (400 : Nat) ≠ 202
      decide
    · exact deletionSpec_perform api machine m

/-! ## The same machine -/

theorem names_iff {raw name : String} (h : Text.percentDecode? raw = some name) :
    Names raw machine ↔ Text.trim name = machine := by
  rw [Names, h, Text.trim, ← String.toList_inj, String.toList_ofList, Text.trimChars_eq_iff]
  simp

/-- How requests stand for machines. -/
structure SameMachineSpec (api : Api) : Prop where
  /-- A path names the machine that is left when the blanks around the name are taken away. -/
  names_iff : ∀ raw name, Text.percentDecode? raw = some name →
    ∀ machine, Names raw machine ↔ Text.trim name = machine
  /-- Requests that want the same of the same machine have the same effect on every monitor, and
  they put the same message into the ingress of the registry. -/
  same : ∀ r r' machine w, Means api r machine w → Means api r' machine w → Alike api r r' →
      (∀ upgradable upgradable' m, api.handle upgradable' r' m = api.handle upgradable r m) ∧
        ∀ x, Submits api r' x ↔ Submits api r x
  deletion : ∀ r machine, Means api r machine .delete →
    (∀ x, Submits api r x → x = .delete machine) ∧
      ∀ upgradable m, DeletionSpec machine m (api.handle upgradable r m)
  /-- As long as nobody but requests submits anything, machines go by proper names. -/
  proper : ∀ s dashboard calls, (∀ c ∈ calls, c.Outside) →
    ((Monitor.start s dashboard).afterCalls api calls).ProperlyNamed
  /-- And so they do at each moment of the traffic that requests give rise to. -/
  traffic : ∀ s log σ, Traffic.Run s log σ →
    (∀ m ∈ log.submitted, ∃ r, Submits api r m.submission) →
      ∀ machine, σ.handles machine ≠ none → ProperName machine

/-- Requests that mean the same machine have the same effect. -/
theorem same_machine_same_effect (api : Api) : SameMachineSpec api where
  names_iff := fun _ _ h _ => Api.names_iff h
  same := by
    intro r r' machine w h h' alike
    refine ⟨h.handle_congr h' alike, fun x => ?_⟩
    rw [h.submits_iff, h'.submits_iff, alike.denial_eq]
  deletion := by
    intro r machine h
    refine ⟨fun x hx => ?_, h.deletionSpec⟩
    have hjudge := (h.submits_iff.1 hx).2
    rw [Wish.judge, named] at hjudge
    split at hjudge <;> cases hjudge
    rfl
  proper := fun s dashboard _ => (Monitor.properlyNamed_start s dashboard).afterCalls
  traffic := by
    intro s log σ hrun hsubmitted machine hregistered
    obtain ⟨m, hm, rfl⟩ := hrun.exists_submitted hregistered
    obtain ⟨r, hr⟩ := hsubmitted m hm
    exact hr.properName

/-- Two requests for the deletion of a machine that has been alerted about: a report with services
in it, and one by method. -/
theorem same_machine_same_effect_of_deletions :
    let api : Api := ⟨none, false, true⟩
    let web := Roster.ofList [("db", "fail")]
    let report : Http.Request := ⟨"POST", "/probe/%20web/report", [], Text.utf8
      "\x7b\"services\":\x7b\"db\":\"fail\"\x7d,\"machineStatus\":\" DeLete\"\x7d"⟩
    let deletion : Http.Request := ⟨"DELETE", "/probe/web%0A", [], []⟩
    let m := ((Monitor.start ⟨⟨1000⟩, ⟨1, 1, 1⟩, none, 0⟩ false).operate
      (.submit [.report "web" web])).monitor
    (Means api report "web" .delete ∧ Means api deletion "web" .delete) ∧
      m.registry.map (·.probes.names) = some ["web"] ∧
        api.handle true deletion m = api.handle true report m ∧
          (api.handle true deletion m).2.1.registry.map (·.probes.names) = some [] := by
  intro api web report deletion m
  have hpost : api.route? report = some (.report "%20web") := by decide +kernel
  have hpath : api.route? deletion = some (.probe "web%0A") := by decide +kernel
  have hposted : Text.percentDecode? "%20web" = some " web" := by decide +kernel
  have hnamed : Text.percentDecode? "web%0A" = some "web\n" := by decide +kernel
  have hreport : Means api report "web" .delete :=
    .strike (p := ⟨web, some " DeLete"⟩) hpost rfl
      ((Api.names_iff hposted).2 (by decide +kernel)) (by decide +kernel) rfl
      (Payload.isDelete_iff.1 (by decide +kernel))
  have hdeletion : Means api deletion "web" .delete :=
    .delete hpath rfl ((Api.names_iff hnamed).2 (by decide +kernel))
  have hsame := (same_machine_same_effect api).same report deletion "web" .delete hreport hdeletion
    fun hguarded => absurd rfl hguarded
  exact ⟨⟨hreport, hdeletion⟩, by decide +kernel, hsame.1 true true m, by decide +kernel⟩

end Api

end Vigil

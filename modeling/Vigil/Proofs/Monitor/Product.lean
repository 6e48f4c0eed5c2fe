import Mathlib.Data.List.Dedup
import Vigil.Proofs.Monitor.Lone

/-!
# The monitor as a product of workers

Every machine fares as if it had a worker to itself. Other machines, and what came before its last
deletion, have no influence.
-/

namespace Vigil.Monitor

variable {s : Settings} {dashboard : Bool} {machine : String} {m : Monitor} {log : Log}

/-! ## Along a run -/

/-- The monitor holds the probes of the lone workers. -/
structure Mirrors (s : Settings) (requests : List Request) (m : Monitor) : Prop where
  now_eq : m.now = clock requests
  settings_eq : ∀ r, m.registry = some r → r.settings = s
  probe_eq : ∀ machine, m.probe? machine = (lone s machine requests).map Worker.probe

theorem Mirrors.serve {q : Request} {requests : List Request} {m' : Monitor}
    {events : List (Stamped Event)} (h : Mirrors s requests m)
    (served : m.serve q = .ok (m', events)) : Mirrors s (q :: requests) m' := by
  have hspec := serve_spec h.settings_eq served
  refine ⟨?_, hspec.settings_eq, fun machine => ?_⟩
  · rw [hspec.now_eq, h.now_eq, clock]
  · rw [hspec.probe_eq, h.probe_eq, h.now_eq, probe_lone_cons]

theorem Run.mirrors (h : Run s dashboard log m) : Mirrors s log.requests m := by
  induction h with
  | start =>
    refine ⟨rfl, ?_, fun machine => ?_⟩
    · intro r hr
      unfold Monitor.start at hr
      split at hr
      · cases hr
      · cases hr
        rfl
    · unfold Monitor.start probe?
      split <;> rfl
  | serve q _ served ih => exact ih.serve served

theorem Run.registry_isSome (h : Run s dashboard log m)
    (hstart : (Monitor.start s dashboard).registry.isSome) : m.registry.isSome := by
  induction h with
  | start => exact hstart
  | serve q _ served ih =>
    obtain ⟨r, hr⟩ := Option.isSome_iff_exists.1 ih
    obtain ⟨m', events, hserve, hsome⟩ := serve_of_registry hr q
    rw [served] at hserve
    cases hserve
    exact hsome

theorem Run.earlier {later earlier : Log} (h : Run s dashboard (later ++ earlier) m) :
    ∃ m', Run s dashboard earlier m' := by
  induction later generalizing m with
  | nil => exact ⟨m, h⟩
  | cons e later ih =>
    cases h with
    | serve q h served => exact ih h

theorem alerts_append (xs ys : List (Stamped Event)) :
    alerts (xs ++ ys) = alerts xs ++ alerts ys :=
  List.filterMap_append

theorem mem_alerts {events : List (Stamped Event)} {instant : Nat} {a : Alert} :
    ⟨instant, a⟩ ∈ alerts events ↔ ⟨instant, .alert a⟩ ∈ events := by
  constructor
  · intro h
    obtain ⟨⟨instant, event⟩, he, hvalue⟩ := List.mem_filterMap.1 h
    cases event with
    | alert b =>
      cases hvalue
      exact he
    | notice n => cases hvalue
  · intro h
    exact List.mem_filterMap.2 ⟨_, h, rfl⟩

/-- The alerts in a stretch of a run are those of the lone workers taken together. -/
theorem Run.alerts_perm {stretch earlier : Log} {machines : List String} (hd : machines.Nodup)
    (hsub : ∀ machine services, .report machine services ∈ Log.requests (stretch ++ earlier) →
      machine ∈ machines)
    (h : Run s dashboard (stretch ++ earlier) m) :
    (alerts (stretch.flatMap Prod.snd)).Perm (machines.flatMap fun machine =>
      alerts (aloneDuring s machine (Log.requests earlier) (Log.requests stretch))) := by
  induction stretch generalizing m with
  | nil => simp [aloneDuring, Log.requests, alerts]
  | cons e stretch ih =>
    rw [List.cons_append] at h hsub
    have hmirrors' := h.mirrors
    cases h with
    | @serve _ m₀ _ events q h served =>
      have hmirrors := h.mirrors
      have hspec := serve_spec hmirrors.settings_eq served
      have hcover : ∀ machine, (m.probe? machine).isSome → machine ∈ machines := by
        intro machine hsome
        rw [hmirrors'.probe_eq, Option.isSome_map, lone_isSome_iff, schedule_ne_nil_iff] at hsome
        obtain ⟨later, services, before, heq, -⟩ := hsome
        apply hsub machine services
        rw [heq]
        exact List.mem_append_right _ List.mem_cons_self
      have hnow := hspec.alerts_perm machines hd hcover
      have hrest := ih (fun machine services hm =>
        hsub machine services (List.mem_cons_of_mem _ hm)) h
      have hact (machine : String) : (q.act s m₀.now machine (m₀.probe? machine)).2 =
          alone s machine (Log.requests (stretch ++ earlier)) q := by
        rw [hmirrors.now_eq, hmirrors.probe_eq, alone_eq]
      simp only [hact] at hnow
      rw [List.flatMap_cons, alerts_append]
      refine (hnow.append hrest).trans ((List.flatMap_append_perm _ _ _).trans ?_)
      refine List.Perm.of_eq (congrArg (fun f => machines.flatMap f) (funext fun machine => ?_))
      rw [← alerts_append, Log.requests, List.map_append]
      rfl

/-! ## Machines that are not registered -/

theorem Request.name_act {q : Request} {now : Nat} {p? : Option Probe}
    (h : ∀ p ∈ p?, p.name = machine) : ∀ p ∈ (q.act s now machine p?).1, p.name = machine := by
  cases q with
  | report other services =>
    by_cases ho : other = machine
    · subst ho
      rw [act_report]
      rintro _ ⟨rfl⟩
      rw [Probe.name_receive]
      cases p? with
      | none => rfl
      | some p => exact h p rfl
    · rw [act_report_of_ne ho]
      exact h
  | delete other =>
    unfold Request.act
    dsimp only
    split
    · nofun
    · exact h
  | advance span =>
    intro p hp
    obtain ⟨q, hq, rfl⟩ := Option.map_eq_some_iff.1 hp
    rw [Probe.name_advance, h q hq]
  | snapshot => exact h
  | state other => exact h

theorem name_lone (s : Settings) (machine : String) (requests : List Request) :
    ∀ p ∈ (lone s machine requests).map Worker.probe, p.name = machine := by
  induction requests with
  | nil => nofun
  | cons q requests ih =>
    rw [probe_lone_cons]
    exact Request.name_act ih

/-- A lone worker raises no alert about another machine. -/
theorem name_of_mem_alone {q : Request} {requests : List Request} {e : Stamped Event} {a : Alert}
    (he : e ∈ alone s machine requests q) (ha : e.value = .alert a) (hc : a.category = .machine) :
    a.name = machine := by
  have hname := name_lone s machine requests
  rw [alone_eq] at he
  cases q with
  | report other services =>
    by_cases ho : other = machine
    · subst ho
      rw [act_report] at he
      obtain ⟨event, hevent, rfl⟩ := List.mem_map.1 he
      change event = .alert a at ha
      rw [ha] at hevent
      exact absurd hc (Probe.category_of_mem_receive hevent)
    · rw [act_report_of_ne ho] at he
      cases he
  | advance span =>
    cases hp : (lone s machine requests).map Worker.probe with
    | none =>
      rw [hp] at he
      cases he
    | some p =>
      rw [hp] at he
      rw [Probe.alert_of_mem_advance he ha]
      exact hname p hp
  | delete other => cases he
  | snapshot => cases he
  | state other => cases he

theorem name_of_mem_aloneDuring {stretch requests : List Request} {e : Stamped Event} {a : Alert}
    (he : e ∈ aloneDuring s machine requests stretch) (ha : e.value = .alert a)
    (hc : a.category = .machine) : a.name = machine := by
  induction stretch with
  | nil => cases he
  | cons q stretch ih =>
    rcases List.mem_append.1 he with he | he
    · exact name_of_mem_alone he ha hc
    · exact ih he

/-- A machine that is not registered has no worker before it reports. -/
theorem aloneDuring_unregistered {stretch requests : List Request}
    (hnone : schedule machine requests = [])
    (hno : ∀ services, .report machine services ∉ stretch) :
    schedule machine (stretch ++ requests) = [] ∧ aloneDuring s machine requests stretch = [] := by
  induction stretch with
  | nil => exact ⟨hnone, rfl⟩
  | cons q stretch ih =>
    obtain ⟨hschedule, halone⟩ := ih fun services hm => hno services (List.mem_cons_of_mem q hm)
    have hlone : lone s machine (stretch ++ requests) = none := by
      rw [lone, hschedule]
      rfl
    rw [List.cons_append, aloneDuring, halone, List.append_nil]
    cases q with
    | report other services =>
      have ho : other ≠ machine := by
        rintro rfl
        exact hno services List.mem_cons_self
      rw [schedule, if_neg ho, alone, if_neg ho]
      exact ⟨hschedule, rfl⟩
    | delete other =>
      rw [schedule, hschedule, ite_self]
      exact ⟨rfl, rfl⟩
    | advance span =>
      rw [alone, hlone]
      exact ⟨hschedule, rfl⟩
    | snapshot => exact ⟨hschedule, rfl⟩
    | state other => exact ⟨hschedule, rfl⟩

/-! ## The product -/

/-- The monitor after a run is the product of lone workers, one for each machine. -/
structure ProductSpec (s : Settings) (dashboard : Bool) (log : Log) (m : Monitor) : Prop where
  /-- A registry that runs at the start serves any request. -/
  served : (start s dashboard).registry.isSome → ∀ q, ∃ m' events, m.serve q = .ok (m', events)
  /-- A machine is registered if it has reported since it was last deleted. -/
  registered : ∀ machine, (m.probe? machine).isSome ↔ ∃ later services earlier,
    log.requests = later ++ .report machine services :: earlier ∧ .delete machine ∉ later
  /-- The probe of a machine is that of its lone worker. -/
  probe_eq : ∀ machine, m.probe? machine = (lone s machine log.requests).map Worker.probe
  /-- What is answered about a machine is what its lone worker answers. -/
  state_eq : ∀ machine answer, m.state machine = .ok answer →
    answer = (lone s machine log.requests).bind Worker.state?
  /-- The alerts of any stretch are those of the lone workers of all machines. -/
  alerts_perm : ∀ later stretch earlier, log = later ++ stretch ++ earlier →
    ∀ machines : List String, machines.Nodup →
    (∀ machine services, .report machine services ∈ log.requests → machine ∈ machines) →
    (alerts (stretch.flatMap Prod.snd)).Perm (machines.flatMap fun machine =>
      alerts (aloneDuring s machine (Log.requests earlier) (Log.requests stretch)))
  /-- Other machines, and what came before a deletion, have no influence. -/
  independent : ∀ dashboard' log' m', Run s dashboard' log' m' → m'.now = m.now →
    ∀ machine, schedule machine (Log.requests log') = schedule machine log.requests →
      m'.probe? machine = m.probe? machine
  /-- No alert is raised about a machine that is not registered and does not report. -/
  unregistered : ∀ later stretch earlier, log = later ++ stretch ++ earlier → ∀ machine,
    schedule machine (Log.requests earlier) = [] →
    (∀ services, .report machine services ∉ Log.requests stretch) →
    aloneDuring s machine (Log.requests earlier) (Log.requests stretch) = [] ∧
      ∀ e ∈ stretch.flatMap Prod.snd, ∀ severity, e.value ≠ .alert ⟨.machine, machine, severity⟩

def reporting (requests : List Request) : List String :=
  (requests.filterMap fun
    | .report machine _ => some machine
    | .delete _ | .advance _ | .snapshot | .state _ => none).dedup

theorem mem_reporting {requests : List Request} {services : Roster String}
    (h : .report machine services ∈ requests) : machine ∈ reporting requests :=
  List.mem_dedup.2 (List.mem_filterMap.2 ⟨_, h, rfl⟩)

theorem state_eq_bind {answer : Option ProbeState} (h : m.state machine = .ok answer) :
    answer = (m.probe? machine).bind Probe.state? := by
  unfold state reach at h
  unfold probe?
  cases hr : m.registry with
  | none => simp [hr, bind, Except.bind] at h
  | some r =>
    simp only [hr] at h
    cases h
    rfl

/-- The monitor is the product of lone workers. -/
theorem product_of_workers (h : Run s dashboard log m) : ProductSpec s dashboard log m := by
  have hmirrors := h.mirrors
  refine ⟨?_, fun machine => ?_, hmirrors.probe_eq, ?_, ?_, ?_, ?_⟩
  · intro hstart q
    obtain ⟨r, hr⟩ := Option.isSome_iff_exists.1 (h.registry_isSome hstart)
    obtain ⟨m', events, hserve, -⟩ := serve_of_registry hr q
    exact ⟨m', events, hserve⟩
  · rw [hmirrors.probe_eq, Option.isSome_map, lone_isSome_iff, schedule_ne_nil_iff]
  · intro machine answer hanswer
    rw [state_eq_bind hanswer, hmirrors.probe_eq]
    rcases lone_cases s machine log.requests with hw | ⟨p, hw⟩
    · rw [hw]
      rfl
    · rw [hw]
      cases hlost : p.lost <;> simp [Worker.watching, Worker.state?, Probe.state?, hlost]
  · rintro later stretch earlier rfl machines hd hsub
    rw [List.append_assoc] at h hsub
    obtain ⟨m', h'⟩ := h.earlier
    refine h'.alerts_perm hd fun machine services hm => hsub machine services ?_
    rw [Log.requests, List.map_append]
    exact List.mem_append_right _ hm
  · intro dashboard' log' m' h' hnow machine hschedule
    have hmirrors' := h'.mirrors
    have hclock : clock (Log.requests log') = clock log.requests := by
      rw [← hmirrors'.now_eq, ← hmirrors.now_eq, hnow]
    rw [hmirrors'.probe_eq, hmirrors.probe_eq, lone_congr hschedule hclock]
  · rintro later stretch earlier rfl machine hnone hno
    obtain ⟨-, halone⟩ := aloneDuring_unregistered (s := s) hnone hno
    refine ⟨halone, ?_⟩
    rintro ⟨instant, event⟩ he severity halert
    change event = .alert _ at halert
    subst halert
    rw [List.append_assoc] at h
    obtain ⟨m', h'⟩ := h.earlier
    have hperm := h'.alerts_perm (List.nodup_dedup _) fun machine services hm => mem_reporting hm
    have hmem := mem_alerts.2 he
    obtain ⟨other, -, hother⟩ := List.mem_flatMap.1 (hperm.mem_iff.1 hmem)
    have hname := name_of_mem_aloneDuring (mem_alerts.1 hother) rfl rfl
    change machine = other at hname
    subst hname
    rw [halone] at hother
    cases hother

/-- A machine that is deleted and reports again starts anew, while another one goes on. -/
theorem product_of_two_workers :
    ∃ (s : Settings) (log : Log) (m : Monitor),
      Run s false log m ∧ ProductSpec s false log m ∧
      (m.probe? "web").map Probe.state = some ⟨"web", .failed, 0, 1500, 1⟩ ∧
      (m.probe? "mail").map Probe.state = some ⟨"mail", .alertedLow, 0, 0, 1⟩ ∧
      alerts (log.flatMap Prod.snd) = [⟨2000, .machine, "mail", .low⟩] := by
  let s : Settings := ⟨⟨1000⟩, ⟨1, 1, 1⟩, none, 0⟩
  let services : Roster String := .ofList [("db", "pass")]
  have h : Run s false _ _ :=
    .serve (.advance 1000) (.serve (.report "web" services) (.serve (.delete "web")
      (.serve (.advance 1500) (.serve (.report "mail" services) (.serve (.report "web" services)
        .start rfl) rfl) rfl) rfl) rfl) rfl
  exact ⟨s, _, _, h, product_of_workers h, by decide +kernel, by decide +kernel,
    by decide +kernel⟩

end Vigil.Monitor

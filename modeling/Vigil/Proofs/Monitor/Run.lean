import Vigil.Monitor
import Vigil.Proofs.Registry.Submission

/-!
# Runs of the monitor

A monitor serves one request at a time: a report, a deletion, a span of time or a query. Each
request acts on every machine by itself, and the alerts that it raises are those of the machines
taken together.
-/

namespace Vigil

namespace Monitor

/-! ## Requests -/

inductive Request where
  | report (machine : String) (services : Roster String)
  | delete (machine : String)
  | advance (span : Nat)
  | snapshot
  | state (machine : String)

/-- The time that a request takes. -/
def Request.span : Request → Nat
  | .advance span => span
  | .report _ _ | .delete _ | .snapshot | .state _ => 0

/-- The monitor after a request, and what the request gives rise to. -/
def serve (m : Monitor) : Request → Except Refusal (Monitor × List (Stamped Event))
  | .report machine services => m.submit [.report machine services]
  | .delete machine => m.submit [.delete machine]
  | .advance span => .ok ((m.advance span).1, (m.advance span).2.events)
  | .snapshot => m.snapshot.map fun _ => (m, [])
  | .state machine => (m.state machine).map fun _ => (m, [])

/-- The requests that a monitor has served, each with what it gave rise to. The latest is the
first. -/
abbrev Log := List (Request × List (Stamped Event))

def Log.requests (log : Log) : List Request :=
  log.map Prod.fst

/-- The runs of a monitor from its start on. -/
inductive Run (s : Settings) (dashboard : Bool) : Log → Monitor → Prop where
  | start : Run s dashboard [] (.start s dashboard)
  | serve {log m m' events} (q : Request) (h : Run s dashboard log m)
      (served : m.serve q = .ok (m', events)) : Run s dashboard ((q, events) :: log) m'

def probe? (machine : String) (m : Monitor) : Option Probe :=
  m.registry.bind fun r => r.probes.find? machine

def alerts (events : List (Stamped Event)) : List (Stamped Alert) :=
  events.filterMap fun e => e.value.alert?.map (Stamped.mk e.instant)

/-! ## One machine -/

/-- What a request at the instant `now` does to the probe of a machine, and what it makes the probe
give rise to. -/
def Request.act (s : Settings) (now : Nat) (machine : String) (p? : Option Probe) :
    Request → Option Probe × List (Stamped Event)
  | .report other services =>
    if other = machine then
      let (p, events) := (p?.getD (.start s machine now .empty)).receive s now services
      (some p, events.map (Stamped.mk now))
    else (p?, [])
  | .delete other => (if other = machine then none else p?, [])
  | .advance span =>
    (p?.map fun p => (p.advance s (now + span)).1,
      p?.elim [] fun p => (p.advance s (now + span)).2)
  | .snapshot | .state _ => (p?, [])

theorem act_report (s : Settings) (now : Nat) (machine : String) (p? : Option Probe)
    (services : Roster String) :
    Request.act s now machine p? (.report machine services) =
      (some ((p?.getD (.start s machine now .empty)).receive s now services).1,
        ((p?.getD (.start s machine now .empty)).receive s now services).2.map (Stamped.mk now)) :=
  if_pos rfl

theorem act_report_of_ne {machine other : String} (h : other ≠ machine) (s : Settings) (now : Nat)
    (p? : Option Probe) (services : Roster String) :
    Request.act s now machine p? (.report other services) = (p?, []) :=
  if_neg h

theorem alerts_stamp (now : Nat) (events : List Event) :
    alerts (events.map (Stamped.mk now)) =
      (events.filterMap Event.alert?).map (Stamped.mk now) := by
  simp [alerts, List.filterMap_map, List.map_filterMap]

/-! ## All machines -/

/-- The outcome of a request is that of its effects on the machines one by one. -/
structure ServeSpec (s : Settings) (m : Monitor) (q : Request) (m' : Monitor)
    (events : List (Stamped Event)) : Prop where
  now_eq : m'.now = m.now + q.span
  settings_eq : ∀ r, m'.registry = some r → r.settings = s
  probe_eq : ∀ machine, m'.probe? machine = (q.act s m.now machine (m.probe? machine)).1
  alerts_perm : ∀ machines : List String, machines.Nodup →
    (∀ machine, (m'.probe? machine).isSome → machine ∈ machines) →
    (alerts events).Perm
      (machines.flatMap fun machine => alerts (q.act s m.now machine (m.probe? machine)).2)

section Serve

variable {s : Settings} {m : Monitor} {r : Registry}

theorem serve_report (machine : String) (services : Roster String) (hr : m.registry = some r)
    (hs : r.settings = s) :
    ServeSpec s m (.report machine services)
      { m with registry := some (r.ingest m.now [.report machine services]).1 }
      ((r.ingest m.now [.report machine services]).2.map (Stamped.mk m.now)) := by
  subst hs
  have hprobe (other : String) : m.probe? other = r.probes.find? other := by rw [probe?, hr]; rfl
  have hfind := Registry.find?_ingest_report r m.now machine services
  refine ⟨rfl, ?_, ?_, ?_⟩
  · rintro _ ⟨rfl⟩
    rw [Registry.ingest_report, Registry.settings_fold, Registry.settings_register]
  · intro other
    rw [hprobe]
    refine (hfind other).trans ?_
    by_cases h : other = machine
    · subst h
      rw [if_pos rfl, act_report]
      rfl
    · rw [if_neg h, act_report_of_ne (Ne.symm h)]
  · intro machines hd hsub
    have hmem : machine ∈ machines := hsub machine (by
      change ((r.ingest m.now [.report machine services]).1.probes.find? machine).isSome = true
      rw [hfind, if_pos rfl]
      rfl)
    have hact : (fun other => alerts
        (Request.act r.settings m.now other (m.probe? other) (.report machine services)).2) =
        fun other => if other = machine then
          alerts (((r.probeFor m.now machine).receive r.settings m.now services).2.map
            (Stamped.mk m.now)) else [] := by
      funext other
      by_cases h : other = machine
      · subst h
        rw [if_pos rfl, act_report, hprobe]
        rfl
      · rw [if_neg h, act_report_of_ne (Ne.symm h)]
        rfl
    rw [hact, Roster.flatMap_single hd, if_pos hmem, alerts_stamp, alerts_stamp,
      Registry.alerts_ingest_report]

theorem serve_delete (machine : String) (hr : m.registry = some r) (hs : r.settings = s) :
    ServeSpec s m (.delete machine)
      { m with registry := some (r.ingest m.now [.delete machine]).1 }
      ((r.ingest m.now [.delete machine]).2.map (Stamped.mk m.now)) := by
  subst hs
  refine ⟨rfl, ?_, ?_, ?_⟩
  · rintro _ ⟨rfl⟩
    exact Registry.settings_ingest_delete
  · intro other
    rw [probe?, probe?, hr]
    refine (Registry.find?_ingest_delete other).trans ?_
    by_cases h : other = machine
    · simp [Request.act, h]
    · simp [Request.act, h, Ne.symm h]
  · intro machines _ _
    rw [alerts_stamp, Registry.alerts_ingest_delete]
    simp [Request.act, alerts]

theorem serve_advance (span : Nat) (hs : ∀ r, m.registry = some r → r.settings = s) :
    ServeSpec s m (.advance span) (m.advance span).1 (m.advance span).2.events := by
  cases hr : m.registry with
  | none =>
    simp only [advance, hr]
    refine ⟨rfl, nofun, fun _ => ?_, fun machines _ _ => ?_⟩
    · simp [probe?, hr, Request.act]
    · simp [probe?, hr, Request.act, alerts]
  | some r =>
    obtain rfl := hs r hr
    have hpassage := Registry.passage_advance r (m.now + span)
    have hprobe (other : String) : m.probe? other = r.probes.find? other := by
      rw [probe?, hr]
      rfl
    simp only [advance, hr]
    refine ⟨rfl, ?_, ?_, ?_⟩
    · rintro _ ⟨rfl⟩
      exact hpassage.settings_eq
    · intro other
      rw [hprobe]
      change (r.advance (m.now + span)).1.probes.find? other = _
      rw [hpassage.probes_eq, Roster.find?_map]
      rfl
    · intro machines hd hsub
      have hnames : ∀ n ∈ r.probes.names, n ∈ machines := by
        intro n hn
        apply hsub
        change ((r.advance (m.now + span)).1.probes.find? n).isSome = true
        rw [hpassage.probes_eq]
        exact Roster.contains_iff.2 (by rw [Roster.names_map]; exact hn)
      have hall := (hpassage.events_perm.trans
        (Roster.flatMap_values_perm r.probes hd hnames _)).filterMap
          fun e => e.value.alert?.map (Stamped.mk e.instant)
      rw [List.filterMap_flatMap] at hall
      refine hall.trans (List.Perm.of_eq ?_)
      refine congrArg (fun f => machines.flatMap f) (funext fun machine => ?_)
      rw [hprobe]
      rfl

/-- A request that asks and changes nothing. -/
theorem serve_query {q : Request} (hspan : q.span = 0)
    (hact : ∀ machine p?, q.act s m.now machine p? = (p?, []))
    (hs : ∀ r, m.registry = some r → r.settings = s) : ServeSpec s m q m [] := by
  refine ⟨by rw [hspan]; rfl, hs, fun machine => by rw [hact], fun machines _ _ => ?_⟩
  simp [hact, alerts]

/-- Each request acts on every machine by itself. -/
theorem serve_spec {q : Request} {m' : Monitor} {events : List (Stamped Event)}
    (hs : ∀ r, m.registry = some r → r.settings = s) (h : m.serve q = .ok (m', events)) :
    ServeSpec s m q m' events := by
  cases q with
  | report machine services =>
    cases hr : m.registry with
    | none => simp [serve, submit, reach, hr, bind, Except.bind] at h
    | some r =>
      simp only [serve, submit, reach, hr] at h
      cases h
      exact serve_report machine services hr (hs r hr)
  | delete machine =>
    cases hr : m.registry with
    | none => simp [serve, submit, reach, hr, bind, Except.bind] at h
    | some r =>
      simp only [serve, submit, reach, hr] at h
      cases h
      exact serve_delete machine hr (hs r hr)
  | advance span =>
    cases h
    exact serve_advance span hs
  | snapshot =>
    cases hr : m.registry with
    | none => simp [serve, snapshot, reach, hr, bind, Except.bind, Except.map] at h
    | some r =>
      simp only [serve, snapshot, reach, hr] at h
      cases h
      exact serve_query rfl (fun _ _ => rfl) hs
  | state machine =>
    cases hr : m.registry with
    | none => simp [serve, state, reach, hr, bind, Except.bind, Except.map] at h
    | some r =>
      simp only [serve, state, reach, hr] at h
      cases h
      exact serve_query rfl (fun _ _ => rfl) hs

/-- A registry that runs refuses nothing, and goes on running. -/
theorem serve_of_registry (hr : m.registry = some r) (q : Request) :
    ∃ m' events, m.serve q = .ok (m', events) ∧ m'.registry.isSome := by
  cases q with
  | report machine services =>
    simp only [serve, submit, reach, hr]
    exact ⟨_, _, rfl, rfl⟩
  | delete machine =>
    simp only [serve, submit, reach, hr]
    exact ⟨_, _, rfl, rfl⟩
  | advance span =>
    refine ⟨_, _, rfl, ?_⟩
    simp only [advance, hr]
    rfl
  | snapshot =>
    simp only [serve, snapshot, reach, hr]
    exact ⟨m, [], rfl, Option.isSome_of_eq_some hr⟩
  | state machine =>
    simp only [serve, state, reach, hr]
    exact ⟨m, [], rfl, Option.isSome_of_eq_some hr⟩

end Serve

end Monitor

end Vigil

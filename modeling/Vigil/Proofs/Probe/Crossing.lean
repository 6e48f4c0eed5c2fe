import Mathlib.Data.List.Basic
import Vigil.Proofs.Probe.Course

/-!
# Alerts about services

A report raises an alert about a service exactly when the service's run of failures reaches one of
the two boundaries, and a notice at every tenth failure beyond the second. The length of a run is
read off the reports alone, so that neither ticks, queries and trims nor other services matter.
-/

namespace Vigil

def Event.concerns (machine service : String) : Event → Bool
  | .alert a => a.category = .service && a.name = Alert.serviceName machine service
  | .notice (.failing name _) => name = Alert.serviceName machine service
  | .notice (.stillFailing name _) => name = Alert.serviceName machine service
  | .notice (.unknownState other _) => other = service
  | .notice _ => false

/-- Thresholds of which the two boundaries are apart, and fit into a word. -/
structure Thresholds.Sound (t : Thresholds) : Prop where
  toLow_pos : 0 < t.toLow
  toHigh_pos : 0 < t.toHigh
  fits : t.toLow + t.toHigh < Positional.word64

theorem Thresholds.Sound.highBoundary_eq {t : Thresholds} (h : t.Sound) :
    t.highBoundary = t.toLow + t.toHigh :=
  Nat.mod_eq_of_lt h.fits

/-- What is said of a service whose run of failures has come to the length `r`. An alert comes with
a notice for the log. -/
def crossing (t : Thresholds) (name : String) (r : Nat) : List Event :=
  (if r = t.toLow then [.notice (.failing name r), .alert ⟨.service, name, .low⟩] else []) ++
  (if r = t.toLow + t.toHigh then
    [.notice (.failing name r), .alert ⟨.service, name, .high⟩] else []) ++
  (if t.toLow + t.toHigh < r ∧ 10 ∣ r - (t.toLow + t.toHigh) then
    [.notice (.stillFailing name r)] else [])

/-- What is said of a status that is a text without a meaning. -/
def misreading (service : String) : Option String → List Event
  | some raw =>
    if Text.trim raw ∈ ["pass", "warn", "fail"] then []
    else [.notice (.unknownState service (Text.trim raw))]
  | none => []

namespace Probe

/-! ## Names of services -/

theorem serviceName_inj {machine service other : String} :
    Alert.serviceName machine service = Alert.serviceName machine other ↔ service = other := by
  constructor
  · intro h
    have hl := congrArg String.toList h
    simp only [Alert.serviceName, String.toList_append] at hl
    exact String.toList_inj.1 (List.append_cancel_left hl)
  · rintro rfl
    rfl

/-! ## One service of one report -/

/-- What a failing observation gives rise to depends on its count alone. -/
theorem serviceEvents_fail (t : Thresholds) (machine service : String) {r : Nat}
    (ht : t.Sound) :
    serviceEvents t machine service ⟨.fail, r⟩ =
      crossing t (Alert.serviceName machine service) r := by
  have hh := ht.toHigh_pos
  unfold serviceEvents Observation.evaluate crossing noticeInterval
  rw [ht.highBoundary_eq]
  by_cases hlow : r = t.toLow
  · have h1 : r ≠ t.toLow + t.toHigh := by omega
    simp [← hlow] at h1 ⊢
    simp [h1]
  · by_cases hhigh : r = t.toLow + t.toHigh
    · simp [hlow, ← hhigh]
    · by_cases hn : t.toLow + t.toHigh < r ∧ (r - (t.toLow + t.toHigh)) % 10 = 0
      · simp [hlow, hhigh, hn, Nat.dvd_iff_mod_eq_zero]
      · simp [hlow, hhigh, hn, Nat.dvd_iff_mod_eq_zero]

theorem serviceEvents_of_ne_fail (t : Thresholds) (machine service : String) (o : Observation)
    (h : o.state ≠ .fail) : serviceEvents t machine service o = [] := by
  simp [serviceEvents, Observation.evaluate, h]

theorem crossing_zero {t : Thresholds} (ht : t.Sound) (name : String) :
    crossing t name 0 = [] := by
  have hl := ht.toLow_pos
  have h1 : 0 ≠ t.toLow := by omega
  have h2 : 0 ≠ t.toLow + t.toHigh := by omega
  simp [crossing, h1, h2]

theorem filter_crossing (t : Thresholds) (machine service : String) (r : Nat) :
    (crossing t (Alert.serviceName machine service) r).filter (Event.concerns machine service) =
      crossing t (Alert.serviceName machine service) r := by
  apply List.filter_eq_self.2
  intro e he
  simp only [crossing, List.mem_append] at he
  rcases he with (he | he) | he <;> split at he <;> simp at he
  · rcases he with rfl | rfl <;> simp [Event.concerns]
  · rcases he with rfl | rfl <;> simp [Event.concerns]
  · subst he
    simp [Event.concerns]

/-- What is said of one service says nothing of another. -/
theorem filter_serviceEvents_of_ne (t : Thresholds) (machine : String) {service other : String}
    (h : other ≠ service) (o : Observation) :
    (serviceEvents t machine other o).filter (Event.concerns machine service) = [] := by
  have hname : Alert.serviceName machine other ≠ Alert.serviceName machine service :=
    fun heq => h (serviceName_inj.1 heq)
  unfold serviceEvents
  cases o.evaluate t <;> simp [Event.concerns, hname]

/-- The latest status of a service decides what its latest observation gives rise to. -/
theorem serviceEvents_expected {t : Thresholds} (ht : t.Sound)
    (machine service raw : String) (rest : List (Option String)) :
    serviceEvents t machine service (expectedObservation raw (some raw :: rest)) =
      crossing t (Alert.serviceName machine service) (streak .fail (some raw :: rest)) := by
  by_cases hs : namedState raw = .fail
  · rw [expectedObservation_of_ne_pass hs nofun, serviceEvents_fail t machine service ht]
  · have hrun : streak .fail (some raw :: rest) = 0 := by
      rw [streak_cons]
      simp [hs]
    rw [hrun, crossing_zero ht]
    apply serviceEvents_of_ne_fail
    rw [state_expectedObservation]
    exact hs

/-! ## All services of one report -/

theorem filter_unknownStates (machine service : String) (services : Roster String) :
    (unknownStates services).filter (Event.concerns machine service) =
      misreading service (services.find? service) := by
  have hflat : unknownStates services = services.entries.flatMap fun e =>
      misreading e.1 (some e.2) := by
    unfold unknownStates
    rw [List.filterMap_eq_flatMap_toList]
    refine congrArg (fun f => services.entries.flatMap f) (funext fun e => ?_)
    obtain ⟨other, raw⟩ := e
    simp only [parse_eq, misreading]
    by_cases h : Text.trim raw ∈ ["pass", "warn", "fail"]
    · rw [if_pos h, if_pos h, Option.toList_none]
    · rw [if_neg h, if_neg h, Option.toList_some]
  have hother : ∀ other raw, other ≠ service →
      (misreading other (some raw)).filter (Event.concerns machine service) = [] := by
    intro other raw h
    unfold misreading
    dsimp only
    split <;> simp [Event.concerns, h]
  rw [hflat, List.filter_flatMap, Roster.flatMap_entries services service
    (fun other raw => (misreading other (some raw)).filter (Event.concerns machine service)) hother]
  cases services.find? service with
  | none => rfl
  | some raw =>
    unfold misreading
    simp only [Option.elim_some]
    split <;> simp [Event.concerns]

theorem filter_evaluations {t : Thresholds} (ht : t.Sound) (p : Probe)
    (service : String) {r : Report} {earlier : List Report} {e : Entry}
    (he : p.history.head? = some e) (hshows : e.Shows r earlier) :
    (p.evaluations t).filter (Event.concerns p.name service) =
      crossing t (Alert.serviceName p.name service)
        (streak .fail (statuses service (r :: earlier))) := by
  have hother : ∀ other o, other ≠ service →
      (serviceEvents t p.name other o).filter (Event.concerns p.name service) = [] :=
    fun other o h => filter_serviceEvents_of_ne t p.name h o
  have hsplit := Roster.flatMap_entries e.services service
    (fun other o => (serviceEvents t p.name other o).filter (Event.concerns p.name service)) hother
  simp only [evaluations, he]
  rw [List.filter_flatMap, hsplit, hshows.observed, statuses_cons]
  cases r.services.find? service with
  | none =>
    rw [streak_cons]
    simp [crossing_zero ht]
  | some raw =>
    simp only [Option.map_some, Option.elim_some]
    rw [serviceEvents_expected ht, filter_crossing]

/-- A report says of a service what its status and the run that the status ends call for. -/
theorem filter_fold {s : Settings} (ht : s.thresholds.Sound)
    (now : Nat) (r : Report) (earlier : List Report) (p : Probe) (service : String)
    (hhead : p.history.head? = (History.unabridged earlier).head?) :
    (p.fold s now r.timestamp r.services).2.filter (Event.concerns p.name service) =
      misreading service (r.services.find? service) ++
        crossing s.thresholds (Alert.serviceName p.name service)
          (streak .fail (statuses service (r :: earlier))) := by
  have hstored : (p.storeReport r.timestamp r.services).history.head? =
      some (Entry.next (History.unabridged earlier).head? r.timestamp r.services) := by
    rw [← hhead]
    rfl
  have heval := filter_evaluations ht (p.storeReport r.timestamp r.services) service hstored
    (History.shows_head_unabridged r earlier)
  have hrecovery : (if p.rung = .normal then []
      else [Event.notice (.recovered p.name)]).filter (Event.concerns p.name service) = [] := by
    split <;> simp [Event.concerns]
  unfold fold
  dsimp only
  rw [List.filter_append, List.filter_append, filter_unknownStates, hrecovery, List.append_nil]
  exact congrArg _ heval

/-- A tick says nothing of any service. -/
theorem filter_step (t : Thresholds) (now : Nat) (p : Probe) (service : String) :
    (p.step t now).2.filter (Event.concerns p.name service) = [] := by
  unfold step countTo silence alert
  dsimp only
  cases p.rung <;> dsimp only <;> split <;> simp [Event.concerns]

/-! ## Along a course -/

/-- What is said of a service when an act is served after those of a record. -/
def Act.said (t : Thresholds) (machine service : String) (earlier : Record) : Act → List Event
  | .report _ r =>
    misreading service (r.services.find? service) ++
      crossing t (Alert.serviceName machine service)
        (streak .fail (statuses service (r :: earlier.reports)))
  | .tick | .query => []

/-- The length of the run of failures of a service that the reports of a record end with. -/
def Record.run (service : String) (record : Record) : Nat :=
  streak .fail (statuses service record.reports)

/-- The alerts about a service that each report of a record has raised. -/
def Record.alertsAbout (machine service : String) (record : Record) : List (List Alert) :=
  record.filterMap fun e =>
    match e.1 with
    | .report _ _ => some ((e.2.filter (Event.concerns machine service)).filterMap Event.alert?)
    | .tick | .query => none

section Courses

variable {s : Settings} {machine : String} {now cap : Nat} {p : Probe} {record : Record}

/-- The latest act of a course says of a service what the record calls for. -/
theorem Course.filter_latest (ht : s.thresholds.Sound)
    {a : Act} {events : List Event}
    (h : Course s (.start s machine now (.withCap cap)) ((a, events) :: record) p)
    (service : String) :
    events.filter (Event.concerns machine service) =
      a.said s.thresholds machine service record := by
  obtain ⟨q, hq, alive, rfl⟩ := h.served
  have hname : q.name = machine := hq.name_eq
  subst hname
  cases a with
  | report now r =>
    obtain ⟨ops, hops, hstored⟩ := hq.history_eq
    have hhead : q.history.head? = (History.unabridged record.reports).head? := by
      rw [hops, ← hstored]
      exact History.head?_after cap ops
    exact filter_fold ht now r record.reports q service hhead
  | tick =>
    rw [Probe.serve, tick_of_alive alive]
    exact filter_step s.thresholds q.deadline q service
  | query => rfl

/-! ## Once in a run -/

/-- An alert is raised at no more than one length of a run. -/
theorem count_crossing_le (t : Thresholds) (name : String) (severity : Severity) :
    ∃ boundary, ∀ r, (crossing t name r).count (.alert ⟨.service, name, severity⟩) ≤
      if r = boundary then 1 else 0 := by
  cases severity with
  | low =>
    refine ⟨t.toLow, fun r => ?_⟩
    unfold crossing
    split <;> split <;> split <;> simp
  | high =>
    refine ⟨t.toLow + t.toHigh, fun r => ?_⟩
    unfold crossing
    split <;> split <;> split <;> simp
  | panic =>
    refine ⟨0, fun r => ?_⟩
    unfold crossing
    split <;> split <;> split <;> simp

theorem streak_cons_report {service : String} {r : Report}
    (h : isIn .fail (r.services.find? service) = true) (record : Record) :
    streak .fail (statuses service (r :: record.reports)) = record.run service + 1 := by
  rw [statuses_cons, streak_cons, if_pos h, Record.run]

theorem count_misreading (service : String) (status : Option String) (alert : Alert) :
    (misreading service status).count (.alert alert) = 0 := by
  unfold misreading
  split
  · split <;> simp
  · rfl

theorem count_filter_concerns (machine service : String) (severity : Severity)
    (events : List Event) :
    (events.filter (Event.concerns machine service)).count
        (.alert ⟨.service, Alert.serviceName machine service, severity⟩) =
      events.count (.alert ⟨.service, Alert.serviceName machine service, severity⟩) :=
  List.count_filter (by simp [Event.concerns])

/-- While all reports of a stretch find a service failing, its run grows from what it was before,
and what is raised at a single length of the run is raised once at most. -/
theorem Course.count_stretch_le (ht : s.thresholds.Sound)
    {stretch earlier : Record} {service : String} {severity : Severity} {boundary : Nat}
    (hboundary : ∀ r, (crossing s.thresholds (Alert.serviceName machine service) r).count
      (.alert ⟨.service, Alert.serviceName machine service, severity⟩) ≤
        if r = boundary then 1 else 0)
    (h : Course s (.start s machine now (.withCap cap)) (stretch ++ earlier) p)
    (hfail : ∀ r ∈ stretch.reports, isIn .fail (r.services.find? service) = true) :
    earlier.run service ≤ Record.run service (stretch ++ earlier) ∧
      (stretch.flatMap Prod.snd).count
          (.alert ⟨.service, Alert.serviceName machine service, severity⟩) ≤
        if earlier.run service < boundary ∧ boundary ≤ Record.run service (stretch ++ earlier)
        then 1 else 0 := by
  induction stretch generalizing p with
  | nil => simp
  | cons e stretch ih =>
    obtain ⟨a, events⟩ := e
    rw [List.cons_append] at h
    obtain ⟨q, hq, -, -⟩ := h.served
    have hlatest := count_filter_concerns machine service severity events
    rw [Course.filter_latest ht h service] at hlatest
    rw [List.flatMap_cons, List.count_append, ← hlatest]
    cases a with
    | report now r =>
      have hr : isIn .fail (r.services.find? service) = true := hfail r List.mem_cons_self
      obtain ⟨hle, hcount⟩ := ih hq fun r' h' => hfail r' (List.mem_cons_of_mem r h')
      have hrun : Record.run service ((.report now r, events) :: (stretch ++ earlier)) =
          Record.run service (stretch ++ earlier) + 1 := streak_cons_report hr _
      have hnow := hboundary (Record.run service (stretch ++ earlier) + 1)
      rw [Act.said, streak_cons_report hr, List.count_append, count_misreading, Nat.zero_add,
        List.cons_append, hrun]
      refine ⟨by omega, ?_⟩
      split at hcount <;> split at hnow <;> split <;> omega
    | tick =>
      obtain ⟨hle, hcount⟩ := ih hq hfail
      rw [Act.said, List.count_nil, Nat.zero_add]
      exact ⟨hle, hcount⟩
    | query =>
      obtain ⟨hle, hcount⟩ := ih hq hfail
      rw [Act.said, List.count_nil, Nat.zero_add]
      exact ⟨hle, hcount⟩

/-! ## Only the statuses matter -/

/-- The alerts about a service that reports with the given statuses call for. -/
def alertRuns (t : Thresholds) (name : String) : List (Option String) → List (List Alert)
  | [] => []
  | status :: rest =>
    (crossing t name (streak .fail (status :: rest))).filterMap Event.alert? ::
      alertRuns t name rest

theorem streak_eq_of_map_eq {state : ServiceState} {xs ys : List (Option String)}
    (h : xs.map (isIn state) = ys.map (isIn state)) : streak state xs = streak state ys := by
  have hlength (zs : List (Option String)) :
      streak state zs = ((zs.map (isIn state)).takeWhile id).length := by
    rw [List.takeWhile_map, List.length_map]
    rfl
  rw [hlength, hlength, h]

theorem alertRuns_eq_of_map_eq {t : Thresholds} {name : String} {xs ys : List (Option String)}
    (h : xs.map (isIn .fail) = ys.map (isIn .fail)) :
    alertRuns t name xs = alertRuns t name ys := by
  induction xs generalizing ys with
  | nil =>
    rw [List.map_nil, eq_comm, List.map_eq_nil_iff] at h
    rw [h]
  | cons x xs ih =>
    cases ys with
    | nil => cases h
    | cons y ys =>
      have htail : xs.map (isIn .fail) = ys.map (isIn .fail) := (List.cons.inj h).2
      rw [alertRuns, alertRuns, streak_eq_of_map_eq h, ih htail]

theorem filterMap_alert?_misreading (service : String) (status : Option String) :
    (misreading service status).filterMap Event.alert? = [] := by
  unfold misreading
  split
  · split <;> rfl
  · rfl

theorem Course.alertsAbout_eq (ht : s.thresholds.Sound)
    (h : Course s (.start s machine now (.withCap cap)) record p) (service : String) :
    record.alertsAbout machine service =
      alertRuns s.thresholds (Alert.serviceName machine service)
        (statuses service record.reports) := by
  induction record generalizing p with
  | nil => rfl
  | cons e record ih =>
    obtain ⟨a, events⟩ := e
    obtain ⟨q, hq, -, -⟩ := h.served
    cases a with
    | report now r =>
      have hlatest := h.filter_latest ht service
      rw [Record.alertsAbout, List.filterMap_cons]
      dsimp only
      rw [hlatest, Act.said, List.filterMap_append, filterMap_alert?_misreading, List.nil_append]
      exact congrArg _ (ih hq)
    | tick => exact ih hq
    | query => exact ih hq

/-- What is said of a service along a course of the probe of a machine. -/
structure CrossingSpec (s : Settings) (machine service : String) (record : Record) : Prop where
  /-- Each act says of the service what its run of failures calls for, and nothing else. -/
  said : ∀ later a events earlier, record = later ++ (a, events) :: earlier →
    events.filter (Event.concerns machine service) =
      Act.said s.thresholds machine service earlier a
  /-- While the service fails, an alert of each severity is raised once at most. -/
  once : ∀ later stretch earlier, record = later ++ stretch ++ earlier →
    (∀ r ∈ Record.reports stretch, isIn .fail (r.services.find? service) = true) →
    ∀ severity, (stretch.flatMap Prod.snd).count
      (.alert ⟨.service, Alert.serviceName machine service, severity⟩) ≤ 1
  /-- Another course in which the service fails in the same reports raises the same alerts. -/
  dependence : ∀ s' now' cap' record' p', s'.thresholds = s.thresholds →
    Course s' (.start s' machine now' (.withCap cap')) record' p' →
    (statuses service (Record.reports record')).map (isIn .fail) =
      (statuses service record.reports).map (isIn .fail) →
    Record.alertsAbout machine service record' = record.alertsAbout machine service

/-- The alerts about a service are the crossings of boundaries by its runs of failures. -/
theorem service_alerts_at_crossings (hl : 0 < s.thresholds.toLow) (hh : 0 < s.thresholds.toHigh)
    (hfits : s.thresholds.toLow + s.thresholds.toHigh < Positional.word64)
    (h : Course s (.start s machine now (.withCap cap)) record p) (service : String) :
    CrossingSpec s machine service record where
  said := by
    rintro later a events earlier rfl
    obtain ⟨q, hq⟩ := h.earlier
    exact hq.filter_latest ⟨hl, hh, hfits⟩ service
  once := by
    rintro later stretch earlier rfl hfail severity
    rw [List.append_assoc] at h
    obtain ⟨q, hq⟩ := h.earlier
    obtain ⟨boundary, hboundary⟩ :=
      count_crossing_le s.thresholds (Alert.serviceName machine service) severity
    obtain ⟨-, hcount⟩ := Course.count_stretch_le ⟨hl, hh, hfits⟩ hboundary hq hfail
    split at hcount <;> omega
  dependence := by
    intro s' now' cap' record' p' ht h' hstatuses
    have hsound : s.thresholds.Sound := ⟨hl, hh, hfits⟩
    rw [h.alertsAbout_eq hsound]
    rw [← ht] at hsound ⊢
    rw [h'.alertsAbout_eq hsound, alertRuns_eq_of_map_eq hstatuses]

/-- Two failures in a row, the earlier one trimmed off, reach a low boundary of two. -/
theorem service_alerts_at_second_failure :
    ∃ (s : Settings) (record : Record) (p : Probe),
      0 < s.thresholds.toLow ∧ 0 < s.thresholds.toHigh ∧
      s.thresholds.toLow + s.thresholds.toHigh < Positional.word64 ∧
      Course s (.start s "web" 0 (.withCap 1)) record p ∧
      CrossingSpec s "web" "db" record ∧
      record.alertsAbout "web" "db" = [[⟨.service, "web-db", .low⟩], []] := by
  let s : Settings := ⟨⟨10000⟩, ⟨2, 2, 1⟩, none, 0⟩
  let r : Report := ⟨0, .ofList [("db", " fail "), ("cache", "pass")]⟩
  let start : Probe := .start s "web" 0 (.withCap 1)
  have h : Course s start _ _ :=
    .trim (.serve (.report 12000 r) (by decide +kernel) (.serve .tick (by decide +kernel)
      (.trim (.serve (.report 100 r) rfl .start))))
  refine ⟨s, _, _, by decide, by decide, by decide, h,
    service_alerts_at_crossings (by decide) (by decide) (by decide) h "db", ?_⟩
  decide +kernel

end Courses

end Probe

end Vigil

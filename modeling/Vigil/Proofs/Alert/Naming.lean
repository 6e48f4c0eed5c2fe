import Vigil.Alert.Binding
import Vigil.Proofs.Monitor.Product

/-!
# Names in alerts

An alert about a service goes out under the name of its machine, a hyphen and the name of the
service. As both may have hyphens of their own, two services can share a name. They do so exactly if
the name of one machine goes on where that of the other ends, and what it has more is what the
service of the other machine begins with.
-/

namespace Vigil

variable {machine machine' service service' : String} {a a' : Alert}

/-! ## Shared names -/

/-- The name of one machine goes on after a hyphen, and the service of the other one begins with the
rest of it. -/
def Continues (machine service machine' service' : String) : Prop :=
  ∃ rest, machine = machine' ++ "-" ++ rest ∧ service' = rest ++ "-" ++ service

theorem append_cons_eq_append_cons_iff {α : Type} {c : α} {xs ys xs' ys' : List α} :
    xs ++ c :: ys = xs' ++ c :: ys' ↔ xs = xs' ∧ ys = ys' ∨
      (∃ zs, xs = xs' ++ c :: zs ∧ ys' = zs ++ c :: ys) ∨
        ∃ zs, xs' = xs ++ c :: zs ∧ ys = zs ++ c :: ys' := by
  constructor
  · intro h
    rcases List.append_eq_append_iff.1 h with ⟨zs, rfl, hrest⟩ | ⟨zs, rfl, hrest⟩
    · cases zs with
      | nil => exact .inl ⟨(List.append_nil _).symm, (List.cons.inj hrest).2⟩
      | cons d zs =>
        obtain ⟨rfl, hys⟩ := List.cons.inj hrest
        exact .inr (.inr ⟨zs, rfl, hys⟩)
    · cases zs with
      | nil => exact .inl ⟨List.append_nil _, (List.cons.inj hrest).2.symm⟩
      | cons d zs =>
        obtain ⟨rfl, hys⟩ := List.cons.inj hrest
        exact .inr (.inl ⟨zs, rfl, hys⟩)
  · rintro (⟨rfl, rfl⟩ | ⟨zs, rfl, rfl⟩ | ⟨zs, rfl, rfl⟩)
    · rfl
    · simp
    · simp

theorem toList_hyphen (s t : String) : (s ++ "-" ++ t).toList = s.toList ++ '-' :: t.toList := by
  simp

theorem continues_iff :
    Continues machine service machine' service' ↔
      ∃ zs, machine.toList = machine'.toList ++ '-' :: zs ∧
        service'.toList = zs ++ '-' :: service.toList := by
  constructor
  · rintro ⟨rest, rfl, rfl⟩
    exact ⟨rest.toList, toList_hyphen _ _, toList_hyphen _ _⟩
  · rintro ⟨zs, hmachine, hservice⟩
    refine ⟨String.ofList zs, String.toList_inj.1 ?_, String.toList_inj.1 ?_⟩
    · rw [toList_hyphen, String.toList_ofList, hmachine]
    · rw [toList_hyphen, String.toList_ofList, hservice]

/-- When two services share a name. -/
theorem serviceName_eq_iff :
    Alert.serviceName machine service = Alert.serviceName machine' service' ↔
      machine = machine' ∧ service = service' ∨ Continues machine service machine' service' ∨
        Continues machine' service' machine service := by
  rw [← String.toList_inj, Alert.serviceName, Alert.serviceName, toList_hyphen, toList_hyphen,
    append_cons_eq_append_cons_iff, String.toList_inj, String.toList_inj, continues_iff,
    continues_iff]

/-- Alerts of one category and one severity have the same key exactly if they have the same name. -/
theorem dedupKey_eq_iff (hcategory : a.category = a'.category) (hseverity : a.severity = a'.severity) :
    Binding.dedupKey a = Binding.dedupKey a' ↔ a.name = a'.name := by
  rw [← String.toList_inj, Binding.dedupKey, Binding.dedupKey, hcategory, hseverity, toList_hyphen,
    toList_hyphen, toList_hyphen, toList_hyphen, List.append_left_inj, List.append_right_inj,
    List.cons.injEq, and_iff_right rfl, String.toList_inj]

namespace Probe

/-! ## The alerts of a report -/

theorem alert_of_mem_serviceEvents {t : Thresholds} {o : Observation}
    (h : .alert a ∈ serviceEvents t machine service o) :
    a.category = .service ∧ a.name = Alert.serviceName machine service := by
  unfold serviceEvents at h
  cases ho : o.evaluate t <;> rw [ho] at h <;> simp at h
  · rw [h]
    exact ⟨rfl, rfl⟩
  · rw [h]
    exact ⟨rfl, rfl⟩

/-- Each alert of a report is raised for what its latest entry says of some service. -/
theorem exists_service_of_receive {s : Settings} {now : Nat} {services : Roster String} {p : Probe}
    (h : .alert a ∈ (p.receive s now services).2) :
    ∃ service o, (p.receive s now services).1.history.head?.bind
        (·.services.find? service) = some o ∧
      .alert a ∈ serviceEvents s.thresholds p.name service o := by
  unfold receive at h ⊢
  split at h
  · cases h
  · rename_i alive
    rw [if_neg alive]
    have hhead : (p.report s now (now / 1000) services).1.history.head? =
        (p.storeReport (now / 1000) services).history.head? := History.head?_trim _
    have hevents : (p.report s now (now / 1000) services).2 = unknownStates services ++
        (p.storeReport (now / 1000) services).evaluations s.thresholds ++
          if p.rung = .normal then [] else [.notice (.recovered p.name)] := rfl
    rw [hevents, List.mem_append, List.mem_append] at h
    rw [hhead]
    rcases h with (h | h) | h
    · obtain ⟨e, -, he⟩ := List.mem_filterMap.1 h
      dsimp only at he
      split at he <;> cases he
    · unfold evaluations at h
      split at h
      · cases h
      · rename_i entry hentry
        obtain ⟨e, he, hraised⟩ := List.mem_flatMap.1 h
        rw [hentry]
        exact ⟨e.1, e.2, Roster.find?_of_mem he, hraised⟩
    · split at h <;> simp at h

end Probe

namespace Monitor

/-- In some run a report of a machine raises the alert `a` for one of its services: the alert is
what the latest observation of the service calls for. -/
inductive Raised (s : Settings) (dashboard : Bool) (machine service : String) (a : Alert) : Prop where
  | report {log : Log} {m m' : Monitor} {events : List (Stamped Event)} {services : Roster String}
      {p : Probe} {o : Observation} (run : Run s dashboard log m)
      (served : m.serve (.report machine services) = .ok (m', events))
      (recorded : ⟨m.now, .alert a⟩ ∈ events) (watched : m'.probe? machine = some p)
      (latest : p.history.head?.bind (·.services.find? service) = some o)
      (called : .alert a ∈ Probe.serviceEvents s.thresholds machine service o) :
      Raised s dashboard machine service a

variable {s : Settings} {dashboard : Bool}

theorem Raised.alert_eq (h : Raised s dashboard machine service a) :
    a.category = .service ∧ a.name = Alert.serviceName machine service := by
  cases h with
  | report _ _ _ _ _ called => exact Probe.alert_of_mem_serviceEvents called

/-- A probe is kept under its own name. -/
theorem Run.name_eq {log : Log} {m : Monitor} (h : Run s dashboard log m) {p : Probe}
    (hp : m.probe? machine = some p) : p.name = machine := by
  rw [h.mirrors.probe_eq] at hp
  exact name_lone s machine log.requests p hp

/-- All alerts of a report are raised for services of its machine. -/
theorem exists_raised {log : Log} {m m' : Monitor} {events : List (Stamped Event)}
    {services : Roster String} {e : Stamped Event} (run : Run s dashboard log m)
    (served : m.serve (.report machine services) = .ok (m', events)) (he : e ∈ events)
    (ha : e.value = .alert a) : ∃ service, Raised s dashboard machine service a := by
  have hserved := served
  cases hr : m.registry with
  | none => simp [serve, submit, reach, hr, bind, Except.bind] at served
  | some r =>
    obtain rfl := run.mirrors.settings_eq r hr
    simp only [serve, submit, reach, hr] at served
    cases served
    obtain ⟨event, hevent, rfl⟩ := List.mem_map.1 he
    change event = .alert a at ha
    subst ha
    have hname : (r.probeFor m.now machine).name = machine := by
      unfold Registry.probeFor
      cases hp : r.probes.find? machine with
      | none => rfl
      | some p => exact run.name_eq (by rw [probe?, hr]; exact hp)
    have hraised : a ∈ (r.ingest m.now [.report machine services]).2.filterMap Event.alert? :=
      List.mem_filterMap.2 ⟨_, hevent, rfl⟩
    rw [Registry.alerts_ingest_report] at hraised
    obtain ⟨event, hmem, halert⟩ := List.mem_filterMap.1 hraised
    cases event with
    | notice n => cases halert
    | alert b =>
      cases halert
      obtain ⟨service, o, ho, hcalled⟩ := Probe.exists_service_of_receive hmem
      rw [hname] at hcalled
      have hwatched := Registry.find?_ingest_report r m.now machine services machine
      rw [if_pos rfl] at hwatched
      exact ⟨service, .report run hserved he hwatched ho hcalled⟩

/-- Two alerts of one severity and the services that they are raised for. -/
structure NameSpec (machine service : String) (a : Alert) (machine' service' : String) (a' : Alert) :
    Prop where
  name_eq : a.name = machine ++ "-" ++ service ∧ a'.name = machine' ++ "-" ++ service'
  key_iff : Binding.dedupKey a = Binding.dedupKey a' ↔ a.name = a'.name
  /-- The services are the same unless the name of one machine continues that of the other. -/
  shared_iff : a.name = a'.name ↔ machine = machine' ∧ service = service' ∨
    Continues machine service machine' service' ∨ Continues machine' service' machine service

/-- All alerts of reports are raised for services, and their names tell the services apart up to
hyphens that a name of a machine may share with one of a service. -/
theorem names_of_services (s : Settings) (dashboard : Bool) :
    (∀ log m m' events machine services e a, Run s dashboard log m →
      m.serve (.report machine services) = .ok (m', events) → e ∈ events → e.value = .alert a →
        ∃ service, Raised s dashboard machine service a) ∧
      ∀ machine service a machine' service' a', Raised s dashboard machine service a →
        Raised s dashboard machine' service' a' → a.severity = a'.severity →
          NameSpec machine service a machine' service' a' := by
  constructor
  · intro log m m' events machine services e a run served he ha
    exact exists_raised run served he ha
  · intro machine service a machine' service' a' h h' hseverity
    obtain ⟨hcategory, hname⟩ := h.alert_eq
    obtain ⟨hcategory', hname'⟩ := h'.alert_eq
    refine ⟨⟨hname, hname'⟩, dedupKey_eq_iff (hcategory.trans hcategory'.symm) hseverity, ?_⟩
    rw [hname, hname']
    exact serviceName_eq_iff

/-- Two machines of which one reports after the other. -/
theorem raised_of_two_machines :
    ∃ s a, Raised s false "web-db" "main" a ∧ Raised s false "web" "db-main" a := by
  let s : Settings := ⟨⟨1000⟩, ⟨1, 1, 1⟩, none, 0⟩
  let services : Roster String := .ofList [("main", "fail")]
  let services' : Roster String := .ofList [("db-main", "fail")]
  let m : Monitor := ⟨0, some ((Registry.start s false 0).ingest 0 [.report "web-db" services]).1⟩
  have served : (start s false).serve (.report "web-db" services) = .ok (m, _) := rfl
  have served' : m.serve (.report "web" services') = .ok (_, _) := rfl
  refine ⟨s, ⟨.service, "web-db-main", .low⟩, ?_, ?_⟩
  · exact .report .start served (by decide +kernel) rfl rfl (by decide +kernel)
  · exact .report (.serve _ .start served) served' (by decide +kernel) rfl rfl (by decide +kernel)

/-- The alerts of two services that neither their names nor their keys tell apart. -/
theorem same_name_of_two_services :
    ∃ s a a', Raised s false "web-db" "main" a ∧ Raised s false "web" "db-main" a' ∧
      a.severity = a'.severity ∧ a.name = a'.name ∧ Binding.dedupKey a = Binding.dedupKey a' ∧
        ¬("web-db" = "web" ∧ "main" = "db-main") := by
  obtain ⟨s, a, h, h'⟩ := raised_of_two_machines
  exact ⟨s, a, a, h, h', rfl, rfl, rfl, by decide⟩

/-- The first report of a machine, and that of another one whose name the name of the first
continues. -/
theorem names_of_services_of_two_machines :
    (∃ s service, Raised s false "web-db" service ⟨.service, "web-db-main", .low⟩) ∧
      ∃ s a, Raised s false "web-db" "main" a ∧ Raised s false "web" "db-main" a ∧
        NameSpec "web-db" "main" a "web" "db-main" a := by
  constructor
  · let s : Settings := ⟨⟨1000⟩, ⟨1, 1, 1⟩, none, 0⟩
    let services : Roster String := .ofList [("main", "fail")]
    have served : (start s false).serve (.report "web-db" services) = .ok (_, _) := rfl
    have h := (names_of_services s false).1 _ _ _ _ _ _ ⟨0, _⟩
      ⟨.service, "web-db-main", .low⟩ .start served (by decide +kernel) rfl
    exact ⟨s, h⟩
  · obtain ⟨s, a, h, h'⟩ := raised_of_two_machines
    exact ⟨s, a, h, h', (names_of_services s false).2 _ _ _ _ _ _ h h' rfl⟩

end Monitor

end Vigil

import Vigil.Proofs.Traffic.Turns

/-!
# Batches

A registry that takes in batches of submissions and lets time pass in between is mirrored by a run
of the traffic, in which the same submissions are taken and the same alerts are raised.
-/

namespace Vigil

/-- What can become of a registry that starts without machines, with the submissions it has taken in
and the alerts that have been raised. -/
inductive Registry.Course (s : Settings) (dashboard : Bool) :
    Nat → List Submission → Registry → List Alert → Prop where
  | start (now : Nat) : Course s dashboard now [] (.start s dashboard now) []
  | ingest {now xs r alerts} (h : Course s dashboard now xs r alerts) (batch : List Submission) :
      Course s dashboard now (xs ++ batch) (r.ingest now batch).1
        (alerts ++ (r.ingest now batch).2.filterMap Event.alert?)
  | advance {now xs r alerts u} (h : Course s dashboard now xs r alerts) (later : now ≤ u) :
      Course s dashboard u xs (r.advance u).1
        (alerts ++ (r.advance u).2.events.filterMap fun e => e.value.alert?)

namespace Traffic

open Registry (Routing)

/-- The registry between two steps of a batch, with the reports that are waiting. -/
structure Follows (s : Settings) (now : Nat) (xs : List Submission) (earlier : List Alert)
    (phase : Phase) (waiting : String → Option (Roster String)) (t : Routing) : Prop where
  settings_eq : t.registry.settings = s
  reached : Reached s now t.registry.probes.names t.registry.probes.find? waiting phase xs
    (earlier ++ t.events.filterMap Event.alert?)

variable {s : Settings} {now : Nat} {xs : List Submission} {earlier : List Alert} {phase : Phase}
variable {t : Routing} {machine : String}

/-! ## Mailboxes -/

theorem names_fold (services : Roster String) {r : Registry} :
    (r.fold now machine services).1.probes.names = r.probes.names := by
  unfold Registry.fold
  split
  · rfl
  next p hp =>
    split
    · rfl
    · rw [Roster.names_insert, Roster.contains, hp]
      rfl

theorem Follows.serveOne {services : Roster String} {es : List (String × Roster String)}
    (h : Follows s now xs earlier phase (List.lookup · ((machine, services) :: es)) t)
    (hnew : machine ∉ es.map Prod.fst) :
    Follows s now xs earlier phase (List.lookup · es) (t.serveOne now machine services) := by
  obtain ⟨hsettings, hreached⟩ := h
  have hwaiting : List.lookup machine ((machine, services) :: es) = some services := by simp
  obtain ⟨p, hp⟩ : ∃ p, t.registry.probes.find? machine = some p := by
    obtain ⟨_, _, _, hmirrors, -⟩ := hreached
    exact hmirrors.exists_probe machine (.inr (by simp))
  have hnext := hreached.receive hp hwaiting
  have hprobes : Function.update t.registry.probes.find? machine
      (some (p.receive s now services).1) =
        (t.registry.fold now machine services).1.probes.find? := by
    funext other
    rw [Registry.find?_fold services hp, Function.update_apply, hsettings]
  have hrest : Function.update (List.lookup · ((machine, services) :: es)) machine none =
      (List.lookup · es) := by
    funext other
    rw [Function.update_apply]
    by_cases hother : other = machine
    · subst hother
      simp [Roster.lookup_eq_none hnew]
    · simp [hother, List.lookup_cons, beq_false_of_ne hother]
  refine ⟨(Registry.settings_fold services).trans hsettings, ?_⟩
  dsimp only [Registry.Routing.serveOne]
  rw [hprobes, hrest, ← hsettings, ← Registry.alerts_fold services hp, List.append_assoc,
    ← List.filterMap_append] at hnext
  rw [names_fold, ← hsettings]
  exact hnext

theorem Follows.serveAll {es : List (String × Roster String)} (hnodup : (es.map Prod.fst).Nodup)
    (h : Follows s now xs earlier phase (List.lookup · es) t) :
    Follows s now xs earlier phase (fun _ => none)
      (es.foldl (fun t e => t.serveOne now e.1 e.2) t) := by
  induction es generalizing t with
  | nil => exact h
  | cons e es ih =>
    obtain ⟨hnew, hnodup⟩ := List.nodup_cons.1 hnodup
    exact ih hnodup (h.serveOne hnew)

theorem Follows.serve (h : Follows s now xs earlier phase t.waiting.find? t) :
    Follows s now xs earlier phase (fun _ => none) (t.serve now) :=
  Follows.serveAll t.waiting.distinct ⟨h.settings_eq, h.reached⟩

theorem waiting_serve (now : Nat) (t : Routing) : (t.serve now).waiting = .empty := by
  have hfold : ∀ (es : List (String × Roster String)) (t : Routing),
      (es.foldl (fun t e => t.serveOne now e.1 e.2) t).waiting = t.waiting := by
    intro es
    induction es with
    | nil => exact fun t => rfl
    | cons e es ih => exact fun t => ih _
  exact hfold _ _

/-- Whenever the registry waits, it comes back to empty mailboxes. -/
theorem Follows.step (h : Follows s now xs earlier phase t.waiting.find? t) (blocked : Bool) :
    Follows s now xs earlier phase (t.step now blocked).waiting.find? (t.step now blocked) := by
  unfold Registry.Routing.step
  split
  · have hserved := h.serve
    refine ⟨hserved.settings_eq, ?_⟩
    have hnone : (t.wait now).waiting.find? = fun _ => none :=
      congrArg Roster.find? (waiting_serve now t)
    dsimp only
    rw [hnone]
    exact hserved.reached
  · exact ⟨h.settings_eq, h.reached⟩

theorem find?_waiting_step (now : Nat) (machine : String) (t : Routing) :
    (t.step now (t.waiting.contains machine)).waiting.find? machine = none := by
  unfold Registry.Routing.step
  split
  · exact congrArg (Roster.find? · machine) (waiting_serve now t)
  next hfree =>
    rw [Bool.or_eq_true, not_or] at hfree
    simpa [Roster.contains] using hfree.1

/-! ## Submissions -/

theorem names_register (r : Registry) (now : Nat) (machine : String) :
    (r.register now machine).1.probes.names =
      if (r.probes.find? machine).isSome then r.probes.names else r.probes.names ++ [machine] := by
  unfold Registry.register Registry.registered Roster.contains
  cases hp : r.probes.find? machine with
  | some p => rfl
  | none => simp [Roster.names_insert, Roster.contains, hp]

theorem Follows.report (h : Follows s now xs earlier .idle t.waiting.find? t) (machine : String)
    (services : Roster String) :
    Follows s now (xs ++ [.report machine services]) earlier .idle
      (t.deliver now machine services).waiting.find? (t.deliver now machine services) := by
  obtain ⟨hsettings, hreached⟩ := h
  let t' : Routing :=
    { t with
      registry := (t.registry.register now machine).1
      events := t.events ++ (t.registry.register now machine).2 }
  have hprobes : Function.update t.registry.probes.find? machine
      (some ((t.registry.probes.find? machine).getD (.start s machine now .empty))) =
        t'.registry.probes.find? := by
    funext other
    rw [Registry.find?_register, Function.update_apply, Registry.probeFor, hsettings]
  have hevents : t'.events.filterMap Event.alert? = t.events.filterMap Event.alert? := by
    rw [List.filterMap_append, Registry.alerts_register, List.append_nil]
  obtain ⟨serial, hrouted⟩ := hreached.report machine services (now / 1000)
  rw [hprobes, ← names_register t.registry now, ← hevents] at hrouted
  have hregistered : Follows s now (xs ++ [.report machine services]) earlier
      (.delivering serial machine ⟨now / 1000, services⟩) t'.waiting.find? t' :=
    ⟨Registry.settings_register.trans hsettings, hrouted⟩
  have hstepped := hregistered.step (t'.waiting.contains machine)
  have hdelivered := hstepped.reached.deliver (find?_waiting_step now machine t')
  have hwaiting : Function.update (t'.step now (t'.waiting.contains machine)).waiting.find?
      machine (some services) = (t.deliver now machine services).waiting.find? := by
    funext other
    rw [Function.update_apply]
    exact (Roster.find?_insert _ machine services other).symm
  rw [hwaiting] at hdelivered
  exact ⟨hstepped.settings_eq, hdelivered⟩

theorem Follows.delete (h : Follows s now xs earlier .idle t.waiting.find? t) {p : Probe}
    (hp : t.registry.probes.find? machine = some p) :
    Follows s now (xs ++ [.delete machine]) earlier .idle (t.strike now machine p).waiting.find?
      (t.strike now machine p) := by
  obtain ⟨hsettings, hreached⟩ := h
  have hdeleted := hreached.delete hp
  have herase : ∀ {α : Type} (r : Roster α),
      Function.update r.find? machine none = (r.erase machine).find? := by
    intro α r
    funext other
    rw [Roster.find?_erase, Function.update_apply]
  have hnotices : ∀ notices : List Notice, (notices.map Event.notice).filterMap Event.alert? = [] := by
    simp [Event.alert?]
  rw [herase, herase, ← Roster.names_erase] at hdeleted
  apply Follows.step
  refine ⟨hsettings, ?_⟩
  rw [List.filterMap_append, hnotices, List.append_nil]
  exact hdeleted

theorem Follows.route (h : Follows s now xs earlier .idle t.waiting.find? t) (x : Submission) :
    Follows s now (xs ++ [x]) earlier .idle (t.route now x).waiting.find? (t.route now x) := by
  have hstepped := h.step false
  unfold Registry.Routing.route
  cases x with
  | report machine services => exact hstepped.report machine services
  | delete machine =>
    dsimp only
    cases hp : (t.step now false).registry.probes.find? machine with
    | some p => exact hstepped.delete hp
    | none =>
      have hnotice : [Event.notice (.unknownDelete machine)].filterMap Event.alert? = [] := rfl
      refine ⟨hstepped.settings_eq, ?_⟩
      rw [List.filterMap_append, hnotice, List.append_nil]
      exact hstepped.reached.unknown hp

theorem Follows.batch (h : Follows s now xs earlier .idle t.waiting.find? t)
    (batch : List Submission) :
    Follows s now (xs ++ batch) earlier .idle (batch.foldl (Routing.route now) t).waiting.find?
      (batch.foldl (Routing.route now) t) := by
  induction batch generalizing t xs with
  | nil => rwa [List.append_nil]
  | cons x batch ih =>
    have hrest := ih (h.route x)
    rwa [List.append_assoc] at hrest

theorem Reached.ingest {r : Registry} {alerts : List Alert} (hsettings : r.settings = s)
    (h : Reached s now r.probes.names r.probes.find? (fun _ => none) .idle xs alerts)
    (batch : List Submission) :
    (r.ingest now batch).1.settings = s ∧
      Reached s now (r.ingest now batch).1.probes.names (r.ingest now batch).1.probes.find?
        (fun _ => none) .idle (xs ++ batch)
        (alerts ++ (r.ingest now batch).2.filterMap Event.alert?) := by
  let t : Routing := ⟨r, .empty, Routing.stint, []⟩
  have hstart : Follows s now xs alerts .idle t.waiting.find? t := by
    refine ⟨hsettings, ?_⟩
    rw [List.filterMap_nil, List.append_nil]
    exact h
  obtain ⟨hsettings', hreached⟩ := (hstart.batch batch).serve
  exact ⟨hsettings', hreached⟩

/-! ## Time -/

/-- The alerts that the probe of a machine raises up to the instant `u`, if there is one. -/
def raisedUntil (s : Settings) (u : Nat) (p? : Option Probe) : List Alert :=
  p?.elim [] fun p => (p.advance s u).2.filterMap fun e => e.value.alert?

theorem Reached.advanceAll {names : List String} {probe? : String → Option Probe}
    {alerts : List Alert} (h : Reached s now names probe? (fun _ => none) phase xs alerts)
    {machines : List String} (hnodup : machines.Nodup) :
    Reached s now names
      (fun machine =>
        if machine ∈ machines then (probe? machine).map fun p => (p.advance s now).1
        else probe? machine)
      (fun _ => none) phase xs
      (alerts ++ machines.flatMap fun machine => raisedUntil s now (probe? machine)) := by
  induction machines generalizing probe? alerts with
  | nil => simpa using h
  | cons machine machines ih =>
    obtain ⟨hnew, hnodup⟩ := List.nodup_cons.1 hnodup
    cases hp : probe? machine with
    | none =>
      have hrest := ih h hnodup
      have hprobes : (fun other => if other ∈ machine :: machines then
            (probe? other).map fun p => (p.advance s now).1 else probe? other) =
          fun other => if other ∈ machines then
            (probe? other).map fun p => (p.advance s now).1 else probe? other := by
        funext other
        by_cases hother : other = machine
        · subst hother
          simp [hp]
        · simp [hother]
      rw [hprobes, List.flatMap_cons, hp]
      exact hrest
    | some p =>
      have hnone : Function.update (fun _ => none) machine none =
          fun _ => (none : Option (Roster String)) := Function.update_eq_self machine fun _ => none
      have hfirst := h.advance hp rfl
      rw [hnone] at hfirst
      have hrest := ih hfirst hnodup
      have hraised : (machines.flatMap fun other => raisedUntil s now
            (Function.update probe? machine (some (p.advance s now).1) other)) =
          machines.flatMap fun other => raisedUntil s now (probe? other) := by
        apply List.flatMap_congr
        intro other hother
        have hne : other ≠ machine := by
          rintro rfl
          exact hnew hother
        rw [Function.update_of_ne hne]
      have hprobes : (fun other => if other ∈ machine :: machines then
            (probe? other).map fun p => (p.advance s now).1 else probe? other) =
          fun other => if other ∈ machines then
            (Function.update probe? machine (some (p.advance s now).1) other).map
              fun p => (p.advance s now).1
          else Function.update probe? machine (some (p.advance s now).1) other := by
        funext other
        by_cases hother : other = machine
        · subst hother
          simp [hp, hnew]
        · simp [hother]
      rw [hprobes, List.flatMap_cons, hp, ← List.append_assoc, ← hraised]
      exact hrest

/-- The probes of a registry are taken to a later instant. -/
theorem Reached.passage {r r' : Registry} {u : Nat} {alerts : List Alert}
    {events : List (Stamped Event)} (hsettings : r.settings = s)
    (h : Reached s now r.probes.names r.probes.find? (fun _ => none) phase xs alerts)
    (later : now ≤ u) (hpassage : Registry.PassageSpec r u r' events) :
    ∃ alerts', Reached s u r'.probes.names r'.probes.find? (fun _ => none) phase xs
        (alerts ++ alerts') ∧
      alerts'.Perm (events.filterMap fun e => e.value.alert?) := by
  have hall := (h.pass later).advanceAll r.probes.nodup_names
  have hprobes : (fun machine => if machine ∈ r.probes.names then
        (r.probes.find? machine).map fun p => (p.advance s u).1
      else r.probes.find? machine) = r'.probes.find? := by
    funext machine
    rw [hpassage.probes_eq, Roster.find?_map, hsettings]
    split
    · rfl
    next hmachine => rw [Roster.find?_eq_none_iff.2 hmachine]; rfl
  have hnames : r'.probes.names = r.probes.names := by
    rw [hpassage.probes_eq, Roster.names_map]
  rw [hprobes, ← hnames] at hall
  refine ⟨_, hall, ?_⟩
  have hevents := hpassage.events_perm.filterMap fun e => e.value.alert?
  rw [hsettings, List.filterMap_flatMap] at hevents
  refine List.Perm.trans ?_ hevents.symm
  rw [hnames]
  exact (Roster.flatMap_values_perm r.probes r.probes.nodup_names (fun _ hn => hn) _).symm

/-- A registry that takes turns with its probes is mirrored by a run. -/
theorem reached_of_course {dashboard : Bool} {r : Registry} {alerts : List Alert}
    (h : Registry.Course s dashboard now xs r alerts) :
    r.settings = s ∧ ∃ alerts', Reached s now r.probes.names r.probes.find? (fun _ => none) .idle
      xs alerts' ∧ alerts'.Perm alerts := by
  induction h with
  | start now =>
    refine ⟨rfl, [], ⟨[], .start now, .start now, ?_, rfl, rfl⟩, .refl _⟩
    exact ⟨rfl, rfl, rfl, rfl, rfl, fun machine _ => ⟨rfl, rfl⟩, nofun⟩
  | ingest h batch ih =>
    obtain ⟨hsettings, alerts', hreached, hperm⟩ := ih
    obtain ⟨hsettings', hreached'⟩ := hreached.ingest hsettings batch
    exact ⟨hsettings', _, hreached', hperm.append_right _⟩
  | @advance now xs r alerts u h later ih =>
    obtain ⟨hsettings, alerts', hreached, hperm⟩ := ih
    have hpassage := Registry.passage_advance r u
    obtain ⟨raised, hreached', hraised⟩ := hreached.passage hsettings later hpassage
    exact ⟨hpassage.settings_eq.trans hsettings, _, hreached', hperm.append hraised⟩

/-- The registry keeps each probe under its own name. -/
theorem name_of_course {dashboard : Bool} {r : Registry} {alerts : List Alert}
    (h : Registry.Course s dashboard now xs r alerts) {p : Probe}
    (hp : r.probes.find? machine = some p) : p.name = machine := by
  obtain ⟨-, _, ⟨_, _, _, hmirrors, -⟩, -⟩ := reached_of_course h
  exact (hmirrors.held machine p hp).1

end Traffic

end Vigil

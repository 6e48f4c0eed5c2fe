import Vigil.Proofs.Registry.Passage

/-!
# Submissions

What submissions do to the registry, and what a report or a deletion that comes alone does to each
machine and which alerts it raises.
-/

namespace Vigil

/-- The probe after a report has been put into its mailbox, and what the probe makes of it. -/
def Probe.receive (s : Settings) (now : Nat) (services : Roster String) (p : Probe) :
    Probe × List Event :=
  if p.lost then (p, []) else p.report s now (now / 1000) services

namespace Registry

variable {r : Registry} {now : Nat} {machine : String}

/-! ## What submissions are made of -/

/-- What becomes of a registry when machines are registered and struck off, and reports are folded,
all at the instant `now`. -/
inductive Reworked (now : Nat) : Registry → Registry → Prop where
  | refl (r : Registry) : Reworked now r r
  | register (r : Registry) (machine : String) : Reworked now r (r.register now machine).1
  | fold (r : Registry) (machine : String) (services : Roster String) :
      Reworked now r (r.fold now machine services).1
  | erase (r : Registry) (machine : String) :
      Reworked now r { r with probes := r.probes.erase machine }
  | trans {r r' r''} (h : Reworked now r r') (h' : Reworked now r' r'') : Reworked now r r''

namespace Routing

theorem reworked_serveAll (now : Nat) (es : List (String × Roster String)) (t : Routing) :
    Reworked now t.registry (es.foldl (fun t e => t.serveOne now e.1 e.2) t).registry := by
  induction es generalizing t with
  | nil => exact .refl _
  | cons e es ih => exact (Reworked.fold t.registry e.1 e.2).trans (ih (t.serveOne now e.1 e.2))

theorem reworked_serve (now : Nat) (t : Routing) :
    Reworked now t.registry (t.serve now).registry :=
  reworked_serveAll now t.waiting.entries { t with waiting := .empty }

theorem reworked_step (now : Nat) (blocked : Bool) (t : Routing) :
    Reworked now t.registry (t.step now blocked).registry := by
  unfold step
  split
  · exact t.reworked_serve now
  · exact .refl _

theorem reworked_deliver (now : Nat) (machine : String) (services : Roster String) (t : Routing) :
    Reworked now t.registry (t.deliver now machine services).registry :=
  (Reworked.register t.registry machine).trans
    (reworked_step now _ { t with registry := _, events := _ })

theorem reworked_strike (now : Nat) (machine : String) (p : Probe) (t : Routing) :
    Reworked now t.registry (t.strike now machine p).registry :=
  (Reworked.erase t.registry machine).trans
    (reworked_step now _ { t with registry := _, waiting := _, events := _ })

theorem reworked_route (now : Nat) (x : Submission) (t : Routing) :
    Reworked now t.registry (t.route now x).registry := by
  have hstep := t.reworked_step now false
  unfold route
  cases x with
  | report machine services => exact hstep.trans (reworked_deliver now machine services _)
  | delete machine =>
    dsimp only
    split
    · exact hstep.trans (reworked_strike now machine _ _)
    · exact hstep

theorem reworked_batch (now : Nat) (batch : List Submission) (t : Routing) :
    Reworked now t.registry (batch.foldl (route now) t).registry := by
  induction batch generalizing t with
  | nil => exact .refl _
  | cons x batch ih => exact (t.reworked_route now x).trans (ih _)

end Routing

theorem reworked_ingest (r : Registry) (now : Nat) (batch : List Submission) :
    Reworked now r (r.ingest now batch).1 :=
  (Routing.reworked_batch now batch ⟨r, .empty, Routing.stint, []⟩).trans
    (Routing.reworked_serve now _)

/-- Registries that differ in their probes at most. -/
structure Akin (r r' : Registry) : Prop where
  settings_eq : r'.settings = r.settings
  nextSnapshot_eq : r'.nextSnapshot = r.nextSnapshot

/-- Submissions leave the settings and the dashboard alone. -/
theorem Reworked.akin {r' : Registry} (h : Reworked now r r') : Akin r r' := by
  induction h with
  | refl | erase => exact ⟨rfl, rfl⟩
  | register r machine =>
    unfold Registry.register
    split <;> exact ⟨rfl, rfl⟩
  | fold r machine services =>
    unfold Registry.fold
    split
    · exact ⟨rfl, rfl⟩
    · split <;> exact ⟨rfl, rfl⟩
  | trans _ _ ih ih' =>
    exact ⟨ih'.settings_eq.trans ih.settings_eq, ih'.nextSnapshot_eq.trans ih.nextSnapshot_eq⟩

/-! ## Reports -/

/-- The probe that a report meets: the one that the machine has, or else a new one. -/
def probeFor (r : Registry) (now : Nat) (machine : String) : Probe :=
  (r.probes.find? machine).getD (.start r.settings machine now .empty)

theorem settings_register : (r.register now machine).1.settings = r.settings :=
  (Reworked.register r machine).akin.settings_eq

theorem find?_register (r : Registry) (now : Nat) (machine other : String) :
    (r.register now machine).1.probes.find? other =
      if other = machine then some (r.probeFor now machine) else r.probes.find? other := by
  unfold register probeFor registered Roster.contains
  cases h : r.probes.find? machine with
  | none => exact Roster.find?_insert _ _ _ _
  | some p =>
    by_cases ho : other = machine
    · subst ho
      simpa using h
    · simp [ho]

theorem alerts_register : (r.register now machine).2.filterMap Event.alert? = [] := by
  unfold register
  split <;> rfl

theorem settings_fold (services : Roster String) :
    (r.fold now machine services).1.settings = r.settings :=
  (Reworked.fold r machine services).akin.settings_eq

theorem find?_fold (services : Roster String) {p : Probe} (h : r.probes.find? machine = some p)
    (other : String) :
    (r.fold now machine services).1.probes.find? other =
      if other = machine then some (p.receive r.settings now services).1
      else r.probes.find? other := by
  unfold fold Probe.receive
  rw [h]
  dsimp only
  split
  · by_cases ho : other = machine
    · rw [if_pos ho, ho, h]
    · rw [if_neg ho]
  · exact Roster.find?_insert _ _ _ _

theorem alerts_fold (services : Roster String) {p : Probe}
    (h : r.probes.find? machine = some p) :
    (r.fold now machine services).2.filterMap Event.alert? =
      (p.receive r.settings now services).2.filterMap Event.alert? := by
  unfold fold Probe.receive
  rw [h]
  dsimp only
  split <;> rfl

/-- A report that comes alone is folded into the history of its machine at once. -/
theorem ingest_report (services : Roster String) :
    r.ingest now [.report machine services] =
      (((r.register now machine).1.fold now machine services).1,
        (r.register now machine).2 ++ ((r.register now machine).1.fold now machine services).2) :=
  rfl

theorem find?_ingest_report (r : Registry) (now : Nat) (machine : String)
    (services : Roster String) (other : String) :
    (r.ingest now [.report machine services]).1.probes.find? other =
      if other = machine then some ((r.probeFor now machine).receive r.settings now services).1
      else r.probes.find? other := by
  have hregister := find?_register r now machine machine
  rw [if_pos rfl] at hregister
  rw [ingest_report, find?_fold services hregister, settings_register, find?_register]
  split <;> rfl

theorem alerts_ingest_report (services : Roster String) :
    (r.ingest now [.report machine services]).2.filterMap Event.alert? =
      ((r.probeFor now machine).receive r.settings now services).2.filterMap Event.alert? := by
  have hregister := find?_register r now machine machine
  rw [if_pos rfl] at hregister
  rw [ingest_report, List.filterMap_append, alerts_register, List.nil_append,
    alerts_fold services hregister, settings_register]

/-! ## Deletions -/

theorem ingest_delete (r : Registry) :
    r.ingest now [.delete machine] =
      match r.probes.find? machine with
      | some p =>
        ({ r with probes := r.probes.erase machine },
          (p.parting ++ [Notice.deleted machine]).map .notice)
      | none => (r, [.notice (.unknownDelete machine)]) := by
  cases h : r.probes.find? machine with
  | some p =>
    cases hlost : p.lost <;>
      simp [ingest, Routing.route, Routing.step, h, Routing.strike, hlost, Routing.wait,
        Routing.serve, Routing.stint, Roster.empty, Roster.erase]
  | none =>
    simp [ingest, Routing.route, Routing.step, h, Routing.serve, Routing.stint, Roster.empty]

theorem settings_ingest_delete : (r.ingest now [.delete machine]).1.settings = r.settings :=
  (reworked_ingest r now _).akin.settings_eq

theorem find?_ingest_delete (other : String) :
    (r.ingest now [.delete machine]).1.probes.find? other =
      if other = machine then none else r.probes.find? other := by
  rw [ingest_delete]
  cases h : r.probes.find? machine with
  | some p => exact Roster.find?_erase _ _ _
  | none =>
    by_cases ho : other = machine
    · subst ho
      simpa using h
    · simp [ho]

theorem alerts_ingest_delete : (r.ingest now [.delete machine]).2.filterMap Event.alert? = [] := by
  have hnotices (ns : List Notice) : (ns.map Event.notice).filterMap Event.alert? = [] := by
    simp [Event.alert?]
  rw [ingest_delete]
  split
  · exact hnotices _
  · rfl

end Registry

end Vigil

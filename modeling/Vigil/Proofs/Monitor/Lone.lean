import Vigil.Proofs.Monitor.Run
import Vigil.Proofs.Probe.Ladder
import Vigil.Worker

/-!
# Lone workers

A worker that a machine has to itself is started at the first report since the machine was last
deleted, and fed with the reports from then on. It does what requests do to the machine.
-/

namespace Vigil

namespace Probe

/-- Right after a report has come in, no timer is due. -/
theorem advance_receive (s : Settings) (now : Nat) (services : Roster String) (p : Probe) :
    (p.receive s now services).1.advance s now = ((p.receive s now services).1, []) := by
  unfold receive
  cases hlost : p.lost with
  | true => exact advance_of_lost hlost
  | false =>
    apply advance_idle
    exact firings_arm ((p.storeReport (now / 1000) services).reset now)

theorem name_receive (s : Settings) (now : Nat) (services : Roster String) (p : Probe) :
    (p.receive s now services).1.name = p.name := by
  unfold receive
  split <;> rfl

/-- A report raises no alert about the machine itself. -/
theorem category_of_mem_receive {s : Settings} {now : Nat} {services : Roster String} {p : Probe}
    {a : Alert} (h : .alert a ∈ (p.receive s now services).2) : a.category ≠ .machine := by
  unfold receive at h
  split at h
  · cases h
  · intro hmachine
    have hfilter := filter_fold_isOfLadder s now ⟨now / 1000, services⟩ p
    exact List.filter_eq_nil_iff.1 hfilter _ h (decide_eq_true hmachine)

end Probe

namespace Worker

variable {s : Settings} {machine : String} {p : Probe} {now : Nat}

/-! ## Workers on their own -/

/-- A worker without a history that is started at the instant `now`. -/
def spawn (s : Settings) (machine : String) (now : Nat) : Worker :=
  { start s machine .empty with probe := .start s machine now .empty, now := now }

def watching (s : Settings) (p : Probe) (now : Nat) : Worker :=
  ⟨s, p, now, !p.lost, true⟩

def goTo (instant : Nat) (w : Worker) : Worker :=
  (w.advance (instant - w.now)).1

/-- The worker after a report of its machine, and what the report gives rise to. A worker that has
ended leaves the report alone. -/
def take (services : Roster String) (w : Worker) : Worker × List (Stamped Event) :=
  match w.report w.probe.name services with
  | .ok out => out
  | .error _ => (w, [])

theorem spawn_eq : spawn s machine now = watching s (.start s machine now .empty) now :=
  rfl

theorem advance_watching (span : Nat) :
    (watching s p now).advance span =
      (watching s (p.advance s (now + span)).1 (now + span), (p.advance s (now + span)).2) := by
  cases hlost : p.lost with
  | true => simp [advance, watching, hlost, Probe.advance_of_lost hlost]
  | false => simp [advance, watching, hlost]

theorem goTo_watching {instant : Nat} (h : now ≤ instant) :
    (watching s p now).goTo instant = watching s (p.advance s instant).1 instant := by
  have hspan : now + (instant - now) = instant := by omega
  change ((watching s p now).advance (instant - now)).1 = _
  rw [advance_watching, hspan]

theorem take_watching (services : Roster String) :
    (watching s p now).take services =
      (watching s (p.receive s now services).1 now,
        (p.receive s now services).2.map (Stamped.mk now)) := by
  unfold take report Probe.receive
  cases hlost : p.lost with
  | true => simp [watching, hlost]
  | false => simp [watching, hlost]

/-- The reports of a machine and the instants at which they come in, the latest first. -/
abbrev Schedule := List (Nat × Roster String)

/-- The worker of a machine right after the latest report of a schedule. It is started when the
first one comes in. -/
def fed (s : Settings) (machine : String) : Schedule → Option Worker
  | [] => none
  | (instant, services) :: earlier =>
    some (((fed s machine earlier).elim (spawn s machine instant) (goTo instant)).take services).1

end Worker

namespace Monitor

open Worker (Schedule)

variable {s : Settings} {dashboard : Bool} {machine : String} {m : Monitor} {log : Log}

/-! ## What concerns one machine -/

/-- The instant that requests lead to. -/
def clock : List Request → Nat
  | [] => 0
  | q :: earlier => clock earlier + q.span

/-- The reports of a machine since it was last deleted. -/
def schedule (machine : String) : List Request → Schedule
  | [] => []
  | .report other services :: earlier =>
    if other = machine then (clock earlier, services) :: schedule machine earlier
    else schedule machine earlier
  | .delete other :: earlier => if other = machine then [] else schedule machine earlier
  | .advance _ :: earlier => schedule machine earlier
  | .snapshot :: earlier => schedule machine earlier
  | .state _ :: earlier => schedule machine earlier

def lone (s : Settings) (machine : String) (requests : List Request) : Option Worker :=
  (Worker.fed s machine (schedule machine requests)).map (Worker.goTo (clock requests))

/-- What the lone worker of a machine gives rise to in a request that comes after earlier ones. -/
def alone (s : Settings) (machine : String) (earlier : List Request) :
    Request → List (Stamped Event)
  | .report other services =>
    if other = machine then
      (((lone s machine earlier).getD (.spawn s machine (clock earlier))).take services).2
    else []
  | .advance span => (lone s machine earlier).elim [] fun w => (w.advance span).2
  | .delete _ | .snapshot | .state _ => []

/-- What the lone workers of a machine give rise to in a stretch of requests. -/
def aloneDuring (s : Settings) (machine : String) (earlier : List Request) :
    List Request → List (Stamped Event)
  | [] => []
  | q :: stretch => alone s machine (stretch ++ earlier) q ++ aloneDuring s machine earlier stretch

theorem schedule_ne_nil_iff {requests : List Request} :
    schedule machine requests ≠ [] ↔ ∃ later services earlier,
      requests = later ++ .report machine services :: earlier ∧ .delete machine ∉ later := by
  constructor
  · intro h
    induction requests with
    | nil => exact absurd rfl h
    | cons q requests ih =>
      have hskip : schedule machine requests ≠ [] → q ≠ .delete machine →
          ∃ later services earlier, q :: requests = later ++ .report machine services :: earlier ∧
            .delete machine ∉ later := by
        intro hs hq
        obtain ⟨later, services, earlier, rfl, hlater⟩ := ih hs
        refine ⟨q :: later, services, earlier, rfl, ?_⟩
        rw [List.mem_cons, not_or]
        exact ⟨Ne.symm hq, hlater⟩
      cases q with
      | report other services =>
        by_cases ho : other = machine
        · subst ho
          exact ⟨[], services, requests, rfl, List.not_mem_nil⟩
        · rw [schedule, if_neg ho] at h
          exact hskip h nofun
      | delete other =>
        rw [schedule] at h
        split at h
        · exact absurd rfl h
        · rename_i ho
          exact hskip h fun heq => ho (Request.delete.inj heq)
      | advance span => exact hskip h nofun
      | snapshot => exact hskip h nofun
      | state other => exact hskip h nofun
  · rintro ⟨later, services, earlier, rfl, hlater⟩
    induction later with
    | nil =>
      rw [List.nil_append, schedule, if_pos rfl]
      exact List.cons_ne_nil _ _
    | cons q later ih =>
      rw [List.mem_cons, not_or] at hlater
      have hrest := ih hlater.2
      rw [List.cons_append]
      cases q with
      | report other services =>
        rw [schedule]
        split
        · exact List.cons_ne_nil _ _
        · exact hrest
      | delete other =>
        have ho : other ≠ machine := fun heq => hlater.1 (congrArg _ heq.symm)
        rw [schedule, if_neg ho]
        exact hrest
      | advance span => exact hrest
      | snapshot => exact hrest
      | state other => exact hrest

/-! ## Lone workers and single machines -/

/-- The lone worker of a machine has been fed at instants that lie in the past. -/
theorem fed_cases (s : Settings) (machine : String) (requests : List Request) :
    Worker.fed s machine (schedule machine requests) = none ∨
      ∃ p instant, Worker.fed s machine (schedule machine requests) =
        some (.watching s p instant) ∧ instant ≤ clock requests := by
  induction requests with
  | nil => exact .inl rfl
  | cons q requests ih =>
    have hskip : Worker.fed s machine (schedule machine requests) = none ∨
        ∃ p instant, Worker.fed s machine (schedule machine requests) =
          some (.watching s p instant) ∧ instant ≤ clock (q :: requests) := by
      refine ih.imp_right ?_
      rintro ⟨p, instant, hw, hle⟩
      exact ⟨p, instant, hw, Nat.le_add_right_of_le hle⟩
    cases q with
    | report other services =>
      rw [schedule]
      split
      · right
        rcases ih with hw | ⟨p, instant, hw, hle⟩
        · rw [Worker.fed, hw, Option.elim_none, Worker.spawn_eq, Worker.take_watching]
          exact ⟨_, _, rfl, Nat.le_refl _⟩
        · rw [Worker.fed, hw, Option.elim_some, Worker.goTo_watching hle, Worker.take_watching]
          exact ⟨_, _, rfl, Nat.le_refl _⟩
      · exact hskip
    | delete other =>
      rw [schedule]
      split
      · exact .inl rfl
      · exact hskip
    | advance span => exact hskip
    | snapshot => exact hskip
    | state other => exact hskip

/-- The lone worker of a machine is none, or watches a probe at the present instant. -/
theorem lone_cases (s : Settings) (machine : String) (requests : List Request) :
    lone s machine requests = none ∨
      ∃ p, lone s machine requests = some (.watching s p (clock requests)) := by
  unfold lone
  rcases fed_cases s machine requests with hw | ⟨p, instant, hw, hle⟩
  · rw [hw]
    exact .inl rfl
  · rw [hw, Option.map_some, Worker.goTo_watching hle]
    exact .inr ⟨_, rfl⟩

theorem lone_isSome_iff {requests : List Request} :
    (lone s machine requests).isSome ↔ schedule machine requests ≠ [] := by
  unfold lone
  rw [Option.isSome_map]
  cases schedule machine requests with
  | nil => simp [Worker.fed]
  | cons e rest => simp [Worker.fed]

theorem lone_congr {requests requests' : List Request}
    (hschedule : schedule machine requests' = schedule machine requests)
    (hclock : clock requests' = clock requests) :
    lone s machine requests' = lone s machine requests := by
  rw [lone, lone, hschedule, hclock]

theorem lone_advance (s : Settings) (machine : String) (span : Nat) (requests : List Request) :
    lone s machine (.advance span :: requests) =
      (lone s machine requests).map fun w => (w.advance span).1 := by
  unfold lone
  rw [schedule, clock]
  rcases fed_cases s machine requests with hw | ⟨p, instant, hw, hle⟩
  · rw [hw]
    rfl
  · have hle' : clock requests ≤ clock requests + span := Nat.le_add_right _ _
    rw [hw, Option.map_some, Option.map_some, Option.map_some, Request.span,
      Worker.goTo_watching hle, Worker.goTo_watching (Nat.le_trans hle hle'),
      Worker.advance_watching, Probe.advance_advance hle' p]

theorem lone_report (s : Settings) (machine : String) (services : Roster String)
    (requests : List Request) :
    lone s machine (.report machine services :: requests) =
      some (((lone s machine requests).getD (.spawn s machine (clock requests))).take
        services).1 := by
  have hclock : clock (.report machine services :: requests) = clock requests := rfl
  have hfed : Worker.fed s machine (schedule machine (.report machine services :: requests)) =
      some (((lone s machine requests).getD (.spawn s machine (clock requests))).take
        services).1 := by
    rw [schedule, if_pos rfl, Worker.fed, lone]
    cases Worker.fed s machine (schedule machine requests) <;> rfl
  obtain ⟨p, hp⟩ : ∃ p, (lone s machine requests).getD (.spawn s machine (clock requests)) =
      .watching s p (clock requests) := by
    rcases lone_cases s machine requests with hw | ⟨p, hw⟩
    · rw [hw]
      exact ⟨_, Worker.spawn_eq⟩
    · rw [hw]
      exact ⟨p, rfl⟩
  rw [lone, hclock, hfed, Option.map_some, hp, Worker.take_watching,
    Worker.goTo_watching (Nat.le_refl _), Probe.advance_receive]

/-- The lone worker of a machine does what a request does to the machine. -/
theorem lone_cons (s : Settings) (machine : String) (q : Request) (requests : List Request) :
    ((lone s machine (q :: requests)).map Worker.probe, alone s machine requests q) =
      q.act s (clock requests) machine ((lone s machine requests).map Worker.probe) := by
  cases q with
  | report other services =>
    by_cases ho : other = machine
    · subst ho
      rw [lone_report, act_report, alone, if_pos rfl]
      rcases lone_cases s other requests with hw | ⟨p, hw⟩
      · rw [hw, Option.getD_none, Worker.spawn_eq, Worker.take_watching]
        rfl
      · rw [hw, Option.getD_some, Worker.take_watching]
        rfl
    · have hschedule : schedule machine (.report other services :: requests) =
          schedule machine requests := by rw [schedule, if_neg ho]
      rw [act_report_of_ne ho, alone, if_neg ho, lone_congr hschedule rfl]
  | delete other =>
    by_cases ho : other = machine
    · subst ho
      have hschedule : schedule other (.delete other :: requests) = [] := by
        rw [schedule, if_pos rfl]
      simp [lone, hschedule, Worker.fed, alone, Request.act]
    · have hschedule : schedule machine (.delete other :: requests) =
          schedule machine requests := by rw [schedule, if_neg ho]
      simp [lone_congr hschedule rfl, alone, Request.act, ho]
  | advance span =>
    rw [lone_advance]
    rcases lone_cases s machine requests with hw | ⟨p, hw⟩
    · rw [alone, hw]
      rfl
    · rw [alone, hw, Option.map_some, Option.map_some, Option.elim_some, Worker.advance_watching]
      rfl
  | snapshot => rfl
  | state other => rfl

theorem probe_lone_cons (s : Settings) (machine : String) (q : Request) (requests : List Request) :
    (lone s machine (q :: requests)).map Worker.probe =
      (q.act s (clock requests) machine ((lone s machine requests).map Worker.probe)).1 :=
  congrArg Prod.fst (lone_cons s machine q requests)

theorem alone_eq (s : Settings) (machine : String) (q : Request) (requests : List Request) :
    alone s machine requests q =
      (q.act s (clock requests) machine ((lone s machine requests).map Worker.probe)).2 :=
  congrArg Prod.snd (lone_cons s machine q requests)

end Monitor

end Vigil

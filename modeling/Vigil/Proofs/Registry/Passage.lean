import Mathlib.Data.List.Perm.Basic
import Vigil.Proofs.Probe.Clock
import Vigil.Registry
import Vigil.Roster.Lemmas

/-!
# Time in the registry

The snapshots for the dashboard cut time into pieces. The probes end up where they would without
any snapshot, and what they give rise to is the same but for its order.
-/

namespace Vigil

namespace Roster

theorem flatMap_single {β : Type} {names : List String} (hd : names.Nodup) (name : String)
    (l : List β) :
    (names.flatMap fun n => if n = name then l else []) = if name ∈ names then l else [] := by
  induction names with
  | nil => rfl
  | cons n names ih =>
    obtain ⟨hn, hd⟩ := List.nodup_cons.1 hd
    rw [List.flatMap_cons, ih hd]
    by_cases h : n = name
    · subst h
      simp [hn]
    · simp [h, Ne.symm h]

theorem flatMap_lookup_perm {α β : Type} {names : List String} (hd : names.Nodup)
    {es : List (String × α)} (hes : (es.map Prod.fst).Nodup)
    (hsub : ∀ n ∈ es.map Prod.fst, n ∈ names) (f : α → List β) :
    (es.flatMap fun e => f e.2).Perm (names.flatMap fun n => (es.lookup n).elim [] f) := by
  induction es with
  | nil => simp
  | cons e es ih =>
    obtain ⟨name, a⟩ := e
    obtain ⟨hname, hes⟩ := List.nodup_cons.1 hes
    have hlookup := lookup_eq_none hname
    have hsplit : (fun n => (((name, a) :: es).lookup n).elim [] f) =
        fun n => (if n = name then f a else []) ++ (es.lookup n).elim [] f := by
      funext n
      by_cases h : n = name
      · simp [h, hlookup]
      · simp [h, List.lookup_cons, beq_false_of_ne h]
    have hone := flatMap_single hd name (f a)
    rw [if_pos (hsub name List.mem_cons_self)] at hone
    have hrest := ih hes fun n hn => hsub n (List.mem_cons_of_mem name hn)
    rw [hsplit, List.flatMap_cons]
    refine List.Perm.trans ?_ (List.flatMap_append_perm _ _ _)
    rw [hone]
    exact hrest.append_left (f a)

/-- What the values of a roster contribute can be listed by any names that include its own. -/
theorem flatMap_values_perm {α β : Type} (r : Roster α) {names : List String} (hd : names.Nodup)
    (hsub : ∀ n ∈ r.names, n ∈ names) (f : α → List β) :
    (r.values.flatMap f).Perm (names.flatMap fun n => (r.find? n).elim [] f) := by
  rw [values, List.flatMap_map]
  exact flatMap_lookup_perm hd r.distinct hsub f

end Roster

namespace Registry

variable {r : Registry} {u v : Nat}

/-- All probes of a registry have been taken to an instant, in whatever pieces. -/
structure PassageSpec (r : Registry) (u : Nat) (r' : Registry) (events : List (Stamped Event)) :
    Prop where
  settings_eq : r'.settings = r.settings
  probes_eq : r'.probes = r.probes.map fun _ p => (p.advance r.settings u).1
  events_perm : events.Perm (r.probes.values.flatMap fun p => (p.advance r.settings u).2)

theorem passage_tickUntil (r : Registry) (u : Nat) :
    PassageSpec r u (r.tickUntil u).1 (r.tickUntil u).2 where
  settings_eq := rfl
  probes_eq := rfl
  events_perm := List.Perm.refl _

/-- Two passages make up one. -/
theorem PassageSpec.trans {r' r'' : Registry} {events events' : List (Stamped Event)} (h : u ≤ v)
    (first : PassageSpec r u r' events) (second : PassageSpec r' v r'' events') :
    PassageSpec r v r'' (events ++ events') where
  settings_eq := second.settings_eq.trans first.settings_eq
  probes_eq := by
    rw [second.probes_eq, first.probes_eq, first.settings_eq, Roster.map_map]
    refine congrArg (fun f => r.probes.map f) (funext fun _ => funext fun p => ?_)
    rw [Probe.advance_advance h p]
  events_perm := by
    have hsecond := second.events_perm
    rw [first.probes_eq, first.settings_eq, Roster.values_map, List.flatMap_map] at hsecond
    have hwhole : (r.probes.values.flatMap fun p => (p.advance r.settings v).2) =
        r.probes.values.flatMap fun p =>
          (p.advance r.settings u).2 ++ ((p.advance r.settings u).1.advance r.settings v).2 :=
      congrArg (fun f => r.probes.values.flatMap f)
        (funext fun p => congrArg Prod.snd (Probe.advance_advance h p))
    rw [hwhole]
    exact (first.events_perm.append hsecond).trans (List.flatMap_append_perm _ _ _)

/-! ## Snapshots for the dashboard -/

theorem snapshotsDue_eq {next : Nat} {interval : Duration} (hnext : r.nextSnapshot = some next)
    (hinterval : r.settings.dashboardInterval = some interval) :
    r.snapshotsDue u =
      if interval.millis = 0 || u < next then 0 else (u - next) / interval.millis + 1 := by
  unfold snapshotsDue
  rw [hnext, hinterval]

theorem publish_eq {next : Nat} {interval : Duration} (hnext : r.nextSnapshot = some next)
    (hinterval : r.settings.dashboardInterval = some interval) :
    r.publish =
      ({ (r.tickUntil next).1 with nextSnapshot := some (next + interval.millis) },
        ⟨(r.tickUntil next).2, [⟨next, (r.tickUntil next).1.snapshot⟩]⟩) := by
  unfold publish
  rw [hnext, hinterval]

/-- A snapshot that is due comes before those that are due after it. -/
theorem publish_due {n : Nat} (h : n + 1 ≤ r.snapshotsDue u) :
    ∃ next ≤ u, PassageSpec r next r.publish.1 r.publish.2.events ∧
      n ≤ r.publish.1.snapshotsDue u := by
  cases hnext : r.nextSnapshot with
  | none => simp [snapshotsDue, hnext] at h
  | some next =>
    cases hinterval : r.settings.dashboardInterval with
    | none => simp [snapshotsDue, hnext, hinterval] at h
    | some interval =>
      have hlater := snapshotsDue_eq (u := u)
        (r := { (r.tickUntil next).1 with nextSnapshot := some (next + interval.millis) })
        rfl hinterval
      obtain ⟨k, hk⟩ := Nat.exists_eq_add_of_le h
      rw [snapshotsDue_eq hnext hinterval, Nat.add_right_comm] at hk
      obtain ⟨hle, hdue⟩ := Probe.due_next hk
      rw [publish_eq hnext hinterval]
      refine ⟨next, hle, ⟨rfl, rfl, List.Perm.refl _⟩, ?_⟩
      rw [hlater, hdue]
      exact Nat.le_add_right n k

/-- The events of the traces, the latest of which comes first. -/
def pastEvents (past : List Trace) : List (Stamped Event) :=
  past.reverse.flatMap Trace.events

theorem pastEvents_cons (trace : Trace) (past : List Trace) :
    pastEvents (trace :: past) = pastEvents past ++ trace.events := by
  simp [pastEvents]

/-- Snapshots that are due do not disturb the passage to the end. -/
theorem publishTimes_passage {n : Nat} (h : n ≤ r.snapshotsDue u) (past : List Trace) :
    ∃ events, pastEvents (publishTimes n r past).2 = pastEvents past ++ events ∧
      PassageSpec r u ((publishTimes n r past).1.tickUntil u).1
        (events ++ ((publishTimes n r past).1.tickUntil u).2) := by
  induction n generalizing r past with
  | zero => exact ⟨[], (List.append_nil _).symm, passage_tickUntil r u⟩
  | succ n ih =>
    obtain ⟨next, hle, hfirst, hdue⟩ := publish_due h
    obtain ⟨events, hevents, hrest⟩ := ih hdue (r.publish.2 :: past)
    rw [pastEvents_cons, List.append_assoc] at hevents
    refine ⟨r.publish.2.events ++ events, hevents, ?_⟩
    rw [List.append_assoc]
    exact hfirst.trans hle hrest

/-- Time takes all probes of the registry to its end. -/
theorem passage_advance (r : Registry) (u : Nat) :
    PassageSpec r u (r.advance u).1 (r.advance u).2.events := by
  obtain ⟨events, hevents, h⟩ := publishTimes_passage (Nat.le_refl (r.snapshotsDue u)) []
  have hall : (r.advance u).2.events =
      events ++ ((publishTimes (r.snapshotsDue u) r []).1.tickUntil u).2 := by
    change pastEvents (_ :: _) = _
    rw [pastEvents_cons, hevents]
    rfl
  rw [hall]
  exact h

end Registry

end Vigil

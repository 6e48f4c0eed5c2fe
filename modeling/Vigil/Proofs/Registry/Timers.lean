import Mathlib.Algebra.GroupWithZero.Nat
import Mathlib.Order.WellFounded
import Vigil.Proofs.Registry.Timetable

/-!
# Timers one after the other

Every probe has a timer, and so has the dashboard. The earliest of them fires and is armed anew, and
this goes on until none is due; of timers that are the earliest at once any may be the first.
However they take turns, they come to an end, and to the same end that the registry reaches at once,
as long as no probe ticks at the instant of a snapshot.
-/

namespace Vigil

namespace Probe

variable {s : Settings} {p : Probe} {u : Nat}

theorem exists_firings (hdelay : 0 < s.delay.millis) (due : p.deadline ≤ u) :
    ∃ n, p.firings s u = n + 1 := by
  have hpos : 0 < p.firings s u := (lt_occasions_iff hdelay).2 (by omega)
  exact Nat.exists_eq_succ_of_ne_zero (Nat.ne_of_gt hpos)

/-- The number of ticks that are left up to an instant, as far as the clock reaches. -/
def ticksLeft (s : Settings) (u : Nat) (p : Probe) : Nat :=
  if p.lost then 0 else p.firings s u

theorem ticksLeft_tick (hdelay : 0 < s.delay.millis) (alive : p.lost = false)
    (due : p.deadline ≤ u) : (p.tick s).1.ticksLeft s u < p.ticksLeft s u := by
  obtain ⟨n, hn⟩ := exists_firings hdelay due
  have hleft : p.ticksLeft s u = n + 1 := by simp [ticksLeft, alive, hn]
  rw [hleft, ticksLeft, firings_tick alive hn]
  split <;> omega

end Probe

namespace Registry

variable {r r' r'' : Registry} {trace trace' : Trace} {u v : Nat}

/-! ## Firing -/

/-- A timer is to fire at an instant. -/
inductive Pending (r : Registry) (t : Nat) : Prop where
  | probe {machine : String} {p : Probe} (hp : r.probes.find? machine = some p)
      (alive : p.lost = false) (deadline : p.deadline = t) : Pending r t
  | dashboard {interval : Duration} (next : r.nextSnapshot = some t)
      (hinterval : r.settings.dashboardInterval = some interval) : Pending r t

def tickOne (machine : String) (r : Registry) : Registry :=
  { r with probes := r.probes.modify machine fun p => (p.tick r.settings).1 }

/-- One of the earliest timers fires, if it is due up to the instant `u`. -/
inductive Fires (u : Nat) (r : Registry) : Trace → Registry → Prop where
  | tick {machine : String} {p : Probe} (hp : r.probes.find? machine = some p)
      (alive : p.lost = false) (due : p.deadline ≤ u) (first : ∀ t, r.Pending t → p.deadline ≤ t) :
      Fires u r ⟨p.tickEvents r.settings, []⟩ (r.tickOne machine)
  | publish {next : Nat} {interval : Duration} (hnext : r.nextSnapshot = some next)
      (hinterval : r.settings.dashboardInterval = some interval) (due : next ≤ u)
      (first : ∀ t, r.Pending t → next ≤ t) :
      Fires u r ⟨[], [⟨next, r.snapshot⟩]⟩ { r with nextSnapshot := some (next + interval.millis) }

/-- Timers fire until none is due up to the instant `u`. -/
inductive Passes (u : Nat) : Registry → Trace → Registry → Prop where
  | done {r : Registry} (quiet : ∀ t, r.Pending t → u < t) : Passes u r ⟨[], []⟩ r
  | fire {r r' r'' : Registry} {trace trace' : Trace} (fires : Fires u r trace r')
      (rest : Passes u r' trace' r'') :
      Passes u r (trace.followedBy trace') r''

/-- The timers take their time. -/
structure Paced (r : Registry) : Prop where
  delay_pos : 0 < r.settings.delay.millis
  interval_pos : ∀ interval, r.settings.dashboardInterval = some interval → 0 < interval.millis

/-- Up to the instant `u` no probe ticks at the instant of a snapshot. -/
def Apart (u : Nat) (r : Registry) : Prop :=
  ∀ machine p next, r.probes.find? machine = some p → r.nextSnapshot = some next → ∀ j k : Nat,
    (p.ticks r.settings j []).1.lost = false →
      (p.ticks r.settings j []).1.deadline = next + k * r.period → u < next + k * r.period

theorem period_eq {interval : Duration} (h : r.settings.dashboardInterval = some interval) :
    r.period = interval.millis := by
  rw [period, h]
  rfl

theorem Fires.settings_eq (h : Fires u r trace r') : r'.settings = r.settings := by
  cases h <;> rfl

theorem Fires.paced (h : Fires u r trace r') (paced : r.Paced) : r'.Paced := by
  obtain ⟨hdelay, hinterval⟩ := paced
  exact ⟨by rwa [h.settings_eq], by rwa [h.settings_eq]⟩

theorem Fires.apart (h : Fires u r trace r') (apart : r.Apart u) : r'.Apart u := by
  cases h with
  | @tick machine p hp alive due first =>
    intro other q next hq hnext j k
    change (r.probes.modify machine _).find? other = some q at hq
    rw [Roster.find?_modify] at hq
    split at hq
    · rename_i hother
      rw [hother, hp, Option.map_some] at hq
      cases hq
      have hticks := apart machine p next hp hnext (j + 1) k
      rwa [Probe.ticks_succ] at hticks
    · exact apart other q next hq hnext j k
  | @publish next interval hnext hinterval due first =>
    rintro machine p _ hp ⟨⟩ j k
    have hinstant : next + (k + 1) * r.period = next + interval.millis + k * r.period := by
      rw [period_eq hinterval, Nat.succ_mul]
      omega
    have hlater := apart machine p next hp hnext j (k + 1)
    rwa [hinstant] at hlater

/-! ## The end -/

/-- The number of times that timers are still to fire up to an instant. -/
def load (u : Nat) (r : Registry) : Nat :=
  (r.probes.values.map (Probe.ticksLeft r.settings u)).sum + r.snapshotsDue u

theorem Fires.load_lt (h : Fires u r trace r') (paced : r.Paced) : r'.load u < r.load u := by
  cases h with
  | @tick machine p hp alive due first =>
    have hafter : (r.tickOne machine).probes.find? machine = some (p.tick r.settings).1 := by
      rw [tickOne, Roster.find?_modify, if_pos rfl, hp, Option.map_some]
    have hvalues := ((Roster.values_perm hp).map (Probe.ticksLeft r.settings u)).sum_nat
    have hvalues' := ((Roster.values_perm hafter).map (Probe.ticksLeft r.settings u)).sum_nat
    have hothers : (r.tickOne machine).probes.erase machine = r.probes.erase machine :=
      Roster.erase_modify _ _ _
    have hless := Probe.ticksLeft_tick paced.delay_pos alive due
    have hsnapshots : (r.tickOne machine).snapshotsDue u = r.snapshotsDue u := rfl
    have hsettings : (r.tickOne machine).settings = r.settings := rfl
    rw [hothers] at hvalues'
    rw [load, load, hsettings, hvalues, hvalues', hsnapshots]
    simp only [List.map_cons, List.sum_cons]
    omega
  | @publish next interval hnext hinterval due first =>
    have hperiod := period_eq hinterval
    have hdue : r.snapshotsDue u = occasions next interval.millis u := by
      rw [snapshotsDue_eq_occasions, hnext, hperiod]
      rfl
    have hdue' : ({ r with nextSnapshot := some (next + interval.millis) } : Registry).snapshotsDue u =
        occasions (next + interval.millis) interval.millis u := by
      rw [snapshotsDue_eq_occasions, ← hperiod]
      rfl
    rw [load, load, hdue, hdue', occasions_succ (paced.interval_pos interval hinterval) due]
    exact Nat.lt_succ_self _

/-- Timers do not fire without end. -/
theorem acc_fires (u : Nat) (paced : r.Paced) :
    Acc (fun r' r => ∃ trace, Fires u r trace r') r := by
  induction hload : r.load u using Nat.strong_induction_on generalizing r with
  | _ n ih =>
    subst hload
    constructor
    rintro r' ⟨trace, fires⟩
    exact ih _ (fires.load_lt paced) (fires.paced paced) rfl

theorem exists_fires {t : Nat} (pending : r.Pending t) (due : t ≤ u) :
    ∃ trace r', Fires u r trace r' := by
  obtain ⟨t', hpending, hfirst⟩ := Nat.lt_wfRel.wf.has_min {t | r.Pending t} ⟨t, pending⟩
  have hfirst : ∀ t, r.Pending t → t' ≤ t := fun t ht => Nat.le_of_not_lt (hfirst t ht)
  have hdue : t' ≤ u := Nat.le_trans (hfirst t pending) due
  cases hpending with
  | probe hp alive deadline =>
    subst deadline
    exact ⟨_, _, .tick hp alive hdue hfirst⟩
  | dashboard next hinterval => exact ⟨_, _, .publish next hinterval hdue hfirst⟩

/-- Some turns of the timers lead to the end. -/
theorem exists_passes (u : Nat) (paced : r.Paced) : ∃ trace r', Passes u r trace r' := by
  induction acc_fires u paced with
  | intro r _ ih =>
    by_cases quiet : ∀ t, r.Pending t → u < t
    · exact ⟨_, _, .done quiet⟩
    · simp only [not_forall, Nat.not_lt] at quiet
      obtain ⟨t, pending, due⟩ := quiet
      obtain ⟨trace, r', fires⟩ := exists_fires pending due
      obtain ⟨trace', r'', rest⟩ := ih r' ⟨trace, fires⟩ (fires.paced paced)
      exact ⟨_, _, .fire fires rest⟩

/-! ## The same end for all -/

/-- What has happened to a registry lies on its way to the instant `u`. -/
structure Agrees (u : Nat) (r : Registry) (trace : Trace) (r' : Registry) : Prop where
  registry_eq : (r.advance u).1 = (r'.advance u).1
  trace : (r.advance u).2.Matches (trace.followedBy (r'.advance u).2)

/-- A probe that has ticked at its deadline is where it would be later on anyway. -/
theorem tickUntil_tickOne {machine : String} {p : Probe} {t : Nat} (paced : r.Paced)
    (hp : r.probes.find? machine = some p) (alive : p.lost = false) (due : p.deadline ≤ t) :
    ((r.tickOne machine).tickUntil t).1 = (r.tickUntil t).1 := by
  have hprobes : (r.probes.modify machine fun q => (q.tick r.settings).1).map
      (fun _ q => (q.advance r.settings t).1) =
        r.probes.map fun _ q => (q.advance r.settings t).1 := by
    rw [Roster.modify, Roster.map_map]
    apply Roster.map_congr
    intro other q hq
    split
    · rename_i hother
      rw [hother, hp] at hq
      cases hq
      obtain ⟨n, hn⟩ := Probe.exists_firings paced.delay_pos due
      rw [Probe.advance_due alive hn]
    · rfl
  exact congrArg (fun probes => { r with probes := probes }) hprobes

/-- No snapshot is due before the next one. -/
theorem exists_pending_of_mem_instants {t : Nat} (h : t ∈ r.instants u) :
    ∃ next, r.Pending next ∧ next ≤ t := by
  rw [instants] at h
  cases hnext : r.nextSnapshot with
  | none => simp [hnext] at h
  | some next =>
    rw [hnext] at h
    cases hinterval : r.settings.dashboardInterval with
    | none =>
      have hperiod : r.period = 0 := by rw [period, hinterval]; rfl
      simp [hperiod, occasions_zero] at h
    | some interval =>
      obtain ⟨k, -, rfl⟩ := List.mem_map.1 h
      exact ⟨next, .dashboard hnext hinterval, Nat.le_add_right _ _⟩

/-- A tick at the deadline takes the first of the events that are due. -/
theorem events_tickOne {machine : String} {p : Probe} (paced : r.Paced)
    (hp : r.probes.find? machine = some p) (alive : p.lost = false) (due : p.deadline ≤ u) :
    (r.advance u).2.events.Perm
      (p.tickEvents r.settings ++ ((r.tickOne machine).advance u).2.events) := by
  let g (q : Probe) : List (Stamped Event) := (q.advance r.settings u).2
  have hafter : (r.tickOne machine).probes.find? machine = some (p.tick r.settings).1 := by
    rw [tickOne, Roster.find?_modify, if_pos rfl, hp, Option.map_some]
  have hothers : (r.tickOne machine).probes.erase machine = r.probes.erase machine :=
    Roster.erase_modify _ _ _
  have htick : g p = p.tickEvents r.settings ++ g (p.tick r.settings).1 := by
    obtain ⟨n, hn⟩ := Probe.exists_firings paced.delay_pos due
    simp only [g, Probe.advance_due alive hn]
  have hvalues := (Roster.values_perm hp).flatMap_right g
  have hvalues' := (Roster.values_perm hafter).flatMap_right g
  rw [hothers] at hvalues'
  rw [List.flatMap_cons, htick, List.append_assoc, ← List.flatMap_cons] at hvalues
  have hall := hvalues.trans (hvalues'.symm.append_left (p.tickEvents r.settings))
  have hpassage := (passage_advance (r.tickOne machine) u).events_perm
  exact (passage_advance r u).events_perm.trans (hall.trans (hpassage.symm.append_left _))

theorem agrees_tickOne {machine : String} {p : Probe} (paced : r.Paced)
    (hp : r.probes.find? machine = some p) (alive : p.lost = false) (due : p.deadline ≤ u)
    (first : ∀ t, r.Pending t → p.deadline ≤ t) :
    Agrees u r ⟨p.tickEvents r.settings, []⟩ (r.tickOne machine) := by
  refine ⟨?_, ?_, events_tickOne paced hp alive due⟩
  · rw [advance_eq, advance_eq, tickUntil_tickOne paced hp alive due]
    rfl
  · have hinstants : (r.tickOne machine).instants u = r.instants u := rfl
    rw [Trace.followedBy, snapshots_advance, snapshots_advance, hinstants, List.nil_append]
    apply List.map_congr_left
    intro t ht
    obtain ⟨next, pending, hle⟩ := exists_pending_of_mem_instants ht
    have hdue := Nat.le_trans (first next pending) hle
    rw [shownAt, shownAt, tickUntil_tickOne paced hp alive hdue]

/-- Nothing happens before the first timer is due. -/
theorem tickUntil_of_ahead {t : Nat}
    (ahead : ∀ machine p, r.probes.find? machine = some p → p.lost = false → t < p.deadline) :
    r.tickUntil t = (r, []) := by
  have hidle : ∀ machine p, r.probes.find? machine = some p →
      p.advance r.settings t = (p, []) := by
    intro machine p hp
    cases hlost : p.lost with
    | true => exact Probe.advance_of_lost hlost
    | false => exact Probe.advance_idle (Probe.firings_of_lt (ahead machine p hp hlost))
  have hprobes : (r.probes.map fun _ p => (p.advance r.settings t).1) = r.probes := by
    have hsame := Roster.map_congr (r := r.probes) (g := fun _ p => p) fun machine p hp =>
      congrArg Prod.fst (hidle machine p hp)
    rw [hsame]
    simp [Roster.map]
  have hevents : (r.probes.values.flatMap fun p => (p.advance r.settings t).2) = [] := by
    rw [Roster.values, List.flatMap_map, List.flatMap_eq_nil_iff]
    intro e he
    exact congrArg Prod.snd (hidle e.1 e.2 (Roster.find?_of_mem he))
  rw [tickUntil, hprobes, hevents]

theorem agrees_publish {next : Nat} {interval : Duration} (paced : r.Paced) (apart : r.Apart u)
    (hnext : r.nextSnapshot = some next)
    (hinterval : r.settings.dashboardInterval = some interval) (due : next ≤ u)
    (first : ∀ t, r.Pending t → next ≤ t) :
    Agrees u r ⟨[], [⟨next, r.snapshot⟩]⟩
      { r with nextSnapshot := some (next + interval.millis) } := by
  have hperiod := period_eq hinterval
  have hstill : r.tickUntil next = (r, []) := by
    apply tickUntil_of_ahead
    intro machine p hp alive
    apply Nat.lt_of_le_of_ne (first _ (.probe hp alive rfl))
    intro hsame
    have hlater := apart machine p next hp hnext 0 0 alive (by simp [Probe.ticks, hsame])
    omega
  have hone : occasions next r.period next = 1 := by
    have hpos := paced.interval_pos interval hinterval
    rw [hperiod, occasions_succ hpos (Nat.le_refl next),
      occasions_of_lt (Nat.lt_add_of_pos_right hpos)]
  obtain ⟨hregistry, hsnapshots, hevents⟩ := advance_advance due r
  rw [Trace.followedBy] at hsnapshots hevents
  have hafter : (r.advance next).1 = { r with nextSnapshot := some (next + interval.millis) } := by
    rw [advance_eq, hstill, hnext, Option.map_some, hone, hperiod, Nat.one_mul]
  have hshown : (r.advance next).2.snapshots = [⟨next, r.snapshot⟩] := by
    rw [snapshots_advance, instants, hnext, Option.elim_some, hone]
    simp [shownAt, hstill]
  have hnothing : (r.advance next).2.events = [] := by
    have hperm := (passage_advance r next).events_perm
    change List.Perm _ (r.tickUntil next).2 at hperm
    rw [hstill] at hperm
    exact hperm.eq_nil
  rw [hafter, hshown] at hsnapshots
  rw [hafter, hnothing] at hevents
  exact ⟨hregistry.trans (by rw [hafter]), hsnapshots, hevents⟩

theorem Fires.agrees (h : Fires u r trace r') (paced : r.Paced) (apart : r.Apart u) :
    Agrees u r trace r' := by
  cases h with
  | tick hp alive due first => exact agrees_tickOne paced hp alive due first
  | publish hnext hinterval due first =>
    exact agrees_publish paced apart hnext hinterval due first

theorem advance_of_quiet (quiet : ∀ t, r.Pending t → u < t) : r.advance u = (r, ⟨[], []⟩) := by
  have hstill : r.tickUntil u = (r, []) :=
    tickUntil_of_ahead fun machine p hp alive => quiet _ (.probe hp alive rfl)
  have hdue : r.snapshotsDue u = 0 := by
    unfold snapshotsDue
    split
    next next interval hnext hinterval =>
      have hlater := quiet next (.dashboard hnext hinterval)
      simp [hlater]
    · rfl
  simp [advance, hdue, publishTimes, hstill, Trace.join]

/-- However the timers take their turns, they lead to where the registry is taken at once. -/
theorem Passes.eq_advance (h : Passes u r trace r') (paced : r.Paced) (apart : r.Apart u) :
    r' = (r.advance u).1 ∧ trace.Matches (r.advance u).2 := by
  induction h with
  | done quiet =>
    have hnothing := advance_of_quiet quiet
    exact ⟨by rw [hnothing], by rw [hnothing], .of_eq (by rw [hnothing])⟩
  | fire fires rest ih =>
    obtain ⟨hregistry, hsnapshots, hevents⟩ := fires.agrees paced apart
    obtain ⟨hregistry', hsnapshots', hevents'⟩ := ih (fires.paced paced) (fires.apart apart)
    refine ⟨hregistry'.trans hregistry.symm, ?_, ?_⟩
    · rw [hsnapshots, Trace.followedBy, hsnapshots']
      rfl
    · exact (hevents'.append_left _).trans hevents.symm

theorem Fires.mono (h : Fires u r trace r') (huv : u ≤ v) : Fires v r trace r' := by
  cases h with
  | tick hp alive due first => exact .tick hp alive (Nat.le_trans due huv) first
  | publish hnext hinterval due first =>
    exact .publish hnext hinterval (Nat.le_trans due huv) first

/-- Turns up to one instant and then up to a later one are turns up to the later one. -/
theorem Passes.trans (h : Passes u r trace r') (huv : u ≤ v) (rest : Passes v r' trace' r'') :
    Passes v r (trace.followedBy trace') r'' := by
  induction h with
  | done quiet => exact rest
  | fire fires _ ih =>
    have hall := Passes.fire (fires.mono huv) (ih rest)
    simpa only [Trace.followedBy, List.append_assoc] using hall

end Registry

end Vigil

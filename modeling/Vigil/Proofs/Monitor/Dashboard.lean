import Vigil.Proofs.Monitor.Run
import Vigil.Proofs.Monitor.Span

/-!
# The dashboard

A registry that runs with a dashboard publishes a snapshot at each multiple of the interval,
whatever it is asked for in between, and the snapshot is the one that a client would be given at
that instant. It makes no difference whether the registry is taken over a span of time at once or
its timers fire one after the other.
-/

namespace Vigil

/-- Of the multiples of a period those are left that come after the latest one. -/
theorem occasions_multiple {period : Nat} (h : 0 < period) (n u : Nat) :
    occasions ((n + 1) * period) period u = u / period - n := by
  apply eq_of_forall_lt_iff
  intro k
  rw [lt_occasions_iff h, ← Nat.add_mul, ← Nat.le_div_iff_mul_le h]
  omega

namespace Monitor

open Registry (Passes)

/-- The interval at which a registry is to publish snapshots, if it is to. -/
def pace (s : Settings) (dashboard : Bool) : Option Duration :=
  if dashboard then s.dashboardInterval else none

/-- The multiples of an interval up to the instant `t`, zero aside. -/
def beats (t : Nat) (interval : Duration) : List Nat :=
  (List.range (t / interval.millis)).map fun k => (k + 1) * interval.millis

/-- The clock moves in an operation. -/
def Operation.takesTime : Operation → Bool
  | .advance _ => true
  | .submit _ | .snapshot | .state _ | .shutdown => false

/-- The snapshots for the dashboard in the course of some operations, the earliest first. -/
def published (m : Monitor) (ops : List Operation) : List (Stamped Snapshot) :=
  (m.outcomes ops).reverse.flatMap Outcome.published

/-- The instant up to which the registry has been running. -/
def uptime (m : Monitor) : List Operation → Nat
  | [] => m.now
  | op :: ops =>
    if (m.after (op :: ops)).registry.isSome then (m.after (op :: ops)).now else m.uptime ops

section

variable {s : Settings} {dashboard : Bool} {now u t : Nat} {r : Registry} {m : Monitor}
variable {ops : List Operation} {op : Operation} {interval : Duration}

/-! ## Intervals -/

theorem lt_next_beat {period : Nat} (h : 0 < period) (t : Nat) : t < (t / period + 1) * period :=
  (Nat.div_lt_iff_lt_mul h).1 (Nat.lt_succ_self _)

theorem beats_add (h : now ≤ u) (interval : Duration) :
    beats u interval = beats now interval ++
      (List.range (u / interval.millis - now / interval.millis)).map fun k =>
        (now / interval.millis + 1) * interval.millis + k * interval.millis := by
  obtain ⟨n, hn⟩ := Nat.exists_eq_add_of_le (Nat.div_le_div_right (c := interval.millis) h)
  have hsub : u / interval.millis - now / interval.millis = n := by omega
  rw [beats, beats, hsub, hn, List.range_add, List.map_append, List.map_map]
  congr 1
  apply List.map_congr_left
  intro k _
  simp only [Function.comp_apply, Nat.add_mul]
  omega

/-- The next snapshot of a registry is due at the first multiple of the interval to come. -/
structure OnBeat (s : Settings) (dashboard : Bool) (now : Nat) (r : Registry) : Prop where
  settings_eq : r.settings = s
  next_eq : r.nextSnapshot =
    (pace s dashboard).map fun interval => (now / interval.millis + 1) * interval.millis
  interval_pos : ∀ interval, pace s dashboard = some interval → 0 < interval.millis

theorem OnBeat.period_eq (h : OnBeat s dashboard now r) (hpace : pace s dashboard = some interval) :
    r.period = interval.millis := by
  unfold pace at hpace
  split at hpace
  · rw [Registry.period, h.settings_eq, hpace]
    rfl
  · cases hpace

theorem OnBeat.start (hr : (Monitor.start s dashboard).registry = some r) :
    OnBeat s dashboard 0 r := by
  unfold Monitor.start at hr
  split at hr
  · cases hr
  next hkept =>
    cases hr
    refine ⟨rfl, ?_, fun interval hpace => ?_⟩
    · cases dashboard <;> simp [Registry.start, pace]
    · unfold pace at hpace
      split at hpace
      next hdashboard =>
        simp [hdashboard, hpace, canKeep] at hkept
        omega
      · cases hpace

theorem OnBeat.akin {r' : Registry} (h : OnBeat s dashboard now r) (akin : Registry.Akin r r') :
    OnBeat s dashboard now r' :=
  ⟨akin.settings_eq.trans h.settings_eq, akin.nextSnapshot_eq.trans h.next_eq, h.interval_pos⟩

theorem OnBeat.advance (h : OnBeat s dashboard now r) (later : now ≤ u) :
    OnBeat s dashboard u (r.advance u).1 := by
  refine ⟨(Registry.passage_advance r u).settings_eq.trans h.settings_eq, ?_, h.interval_pos⟩
  rw [Registry.nextSnapshot_advance, h.next_eq]
  cases hpace : pace s dashboard with
  | none => rfl
  | some interval =>
    have hle := Nat.div_le_div_right (c := interval.millis) later
    simp only [Option.map_some, Option.some.injEq]
    rw [h.period_eq hpace, occasions_multiple (h.interval_pos interval hpace), ← Nat.add_mul]
    congr 1
    omega

theorem onBeat_of_running (running : ((start s dashboard).after ops).registry = some r) :
    OnBeat s dashboard ((start s dashboard).after ops).now r :=
  running_induction (fun _ hr => .start hr)
    (fun now r batch h => h.akin (r.reworked_ingest now batch).akin)
    (fun _ _ _ later h => h.advance later) running

/-- The snapshots that are due up to an instant are the multiples that are left. -/
theorem OnBeat.instants_eq (h : OnBeat s dashboard now r) (later : now ≤ u) :
    (pace s dashboard).elim [] (beats u) =
      (pace s dashboard).elim [] (beats now) ++ r.instants u := by
  rw [Registry.instants, h.next_eq]
  cases hpace : pace s dashboard with
  | none => rfl
  | some interval =>
    rw [Option.elim_some, Option.elim_some, Option.map_some, Option.elim_some, h.period_eq hpace,
      occasions_multiple (h.interval_pos interval hpace), beats_add later]

/-! ## What is published -/

theorem published_cons (m : Monitor) (op : Operation) (ops : List Operation) :
    m.published (op :: ops) = m.published ops ++ ((m.after ops).operate op).published := by
  simp [published, outcomes]

theorem published_of_timeless (timeless : op.takesTime = false) :
    (m.operate op).published = [] := by
  cases op with
  | submit batch =>
    rw [operate]
    cases m.submit batch <;> rfl
  | shutdown =>
    rw [operate]
    cases m.shutdown <;> rfl
  | snapshot | state machine => rfl
  | advance span => cases timeless

theorem published_advance {span : Nat} (hr : m.registry = some r) :
    (m.operate (.advance span)).published = (r.instants (m.now + span)).map r.shownAt := by
  rw [operate, advance_of_running hr]
  exact Registry.snapshots_advance r _

/-- An operation after which the registry does not run publishes nothing. -/
theorem published_of_stopped (stopped : (m.operate op).monitor.registry = none) :
    (m.operate op).published = [] := by
  cases op with
  | advance span =>
    cases hr : m.registry with
    | none => rw [operate, advance_of_stopped hr]
    | some r =>
      rw [operate, advance_of_running hr] at stopped
      cases stopped
  | _ => exact published_of_timeless rfl

theorem uptime_of_running (running : (m.after ops).registry.isSome) :
    m.uptime ops = (m.after ops).now := by
  cases ops with
  | nil => rfl
  | cons op ops => rw [uptime, if_pos running]

/-- Snapshots are published at the multiples of the interval, as long as the registry runs. -/
theorem instants_published (s : Settings) (dashboard : Bool) (ops : List Operation) :
    ((start s dashboard).published ops).map Stamped.instant =
      (pace s dashboard).elim [] (beats ((start s dashboard).uptime ops)) := by
  induction ops with
  | nil =>
    have hnone : ∀ interval, beats 0 interval = [] := by simp [beats]
    cases pace s dashboard with
    | none => rfl
    | some interval => exact (hnone interval).symm
  | cons op ops ih =>
    rw [published_cons, List.map_append, ih]
    by_cases running : ((start s dashboard).after (op :: ops)).registry.isSome
    · obtain ⟨r, hr, turn⟩ := exists_turn running
      rw [uptime_of_running running, uptime_of_running (Option.isSome_of_eq_some hr), after]
      generalize hafter : (((start s dashboard).after ops).operate op).monitor = m' at turn
      cases turn with
      | submit | snapshot | state =>
        rw [published_of_timeless rfl]
        exact List.append_nil _
      | advance span =>
        have hinstants : ∀ ts : List Nat, (ts.map r.shownAt).map Stamped.instant = ts := by
          intro ts
          rw [List.map_map]
          exact List.map_id _
        rw [published_advance hr, hinstants]
        exact ((onBeat_of_running hr).instants_eq (Nat.le_add_right _ _)).symm
    · rw [uptime, if_neg running, published_of_stopped (Option.not_isSome_iff_eq_none.1 running)]
      exact List.append_nil _

theorem filter_beats (h : t ≤ u) (interval : Duration) :
    (beats u interval).filter (· ≤ t) = beats t interval := by
  have hfirst : (beats t interval).filter (· ≤ t) = beats t interval := by
    apply List.filter_eq_self.2
    intro x hx
    obtain ⟨k, hk, rfl⟩ := List.mem_map.1 hx
    rw [decide_eq_true_eq]
    exact Nat.mul_le_of_le_div _ _ _ (List.mem_range.1 hk)
  rw [beats_add h, List.filter_append, hfirst, List.append_right_eq_self, List.filter_eq_nil_iff]
  intro x hx
  obtain ⟨k, hk, rfl⟩ := List.mem_map.1 hx
  rw [decide_eq_true_eq, Nat.not_le]
  have hpos : 0 < interval.millis := by
    by_contra hzero
    simp [Nat.eq_zero_of_not_pos hzero] at hk
  exact Nat.lt_add_right _ (lt_next_beat hpos t)

/-- The instants of snapshots to come lie within the span of time in which they come. -/
theorem OnBeat.mem_instants (h : OnBeat s dashboard now r) (ht : t ∈ r.instants u) :
    now < t ∧ t ≤ u := by
  rw [Registry.instants, h.next_eq] at ht
  cases hpace : pace s dashboard with
  | none =>
    rw [hpace] at ht
    cases ht
  | some interval =>
    have hpos := h.interval_pos interval hpace
    rw [hpace, Option.map_some, Option.elim_some, h.period_eq hpace] at ht
    obtain ⟨k, hk, rfl⟩ := List.mem_map.1 ht
    rw [List.mem_range, lt_occasions_iff hpos] at hk
    exact ⟨Nat.lt_add_right _ (lt_next_beat hpos now), hk⟩

/-- A snapshot is what a client would be given who asks at its instant, when the clock is on its way
there. -/
def Consistent (m : Monitor) (ops : List Operation) (e : Stamped Snapshot) : Prop :=
  ∃ later span wait earlier, ops = later ++ .advance span :: earlier ∧ 0 < wait ∧ wait ≤ span ∧
    (m.after (.advance wait :: earlier)).now = e.instant ∧
      (m.after (.advance wait :: earlier)).snapshot = .ok e.value

theorem consistent_of_mem_published {e : Stamped Snapshot}
    (he : e ∈ (start s dashboard).published ops) : Consistent (start s dashboard) ops e := by
  induction ops with
  | nil => cases he
  | cons op ops ih =>
    rw [published_cons] at he
    rcases List.mem_append.1 he with he | he
    · obtain ⟨later, span, wait, earlier, rfl, hspec⟩ := ih he
      exact ⟨op :: later, span, wait, earlier, rfl, hspec⟩
    · cases op with
      | advance span =>
        cases hr : ((start s dashboard).after ops).registry with
        | none =>
          rw [operate, advance_of_stopped hr] at he
          cases he
        | some r =>
          rw [published_advance hr] at he
          obtain ⟨t, ht, rfl⟩ := List.mem_map.1 he
          obtain ⟨hlt, hle⟩ := (onBeat_of_running hr).mem_instants ht
          obtain ⟨wait, rfl⟩ := Nat.exists_eq_add_of_le (Nat.le_of_lt hlt)
          have hafter : (start s dashboard).after (.advance wait :: ops) = ⟨_, some _⟩ :=
            congrArg Prod.fst (advance_of_running hr wait)
          refine ⟨[], span, wait, ops, rfl, by omega, by omega, by rw [hafter]; rfl, ?_⟩
          rw [hafter, snapshot_of_running rfl, Registry.advance_eq]
          rfl
      | _ =>
        rw [published_of_timeless rfl] at he
        cases he

/-! ## Timers one by one -/

/-- Operations on a monitor whose timers fire one after the other, with the monitor that they lead
to and the snapshots that are published on the way. -/
inductive OneByOne (m : Monitor) : List Operation → Monitor → List (Stamped Snapshot) → Prop where
  | nil : OneByOne m [] m []
  | act {ops m' past} (op : Operation) (timeless : op.takesTime = false)
      (h : OneByOne m ops m' past) : OneByOne m (op :: ops) (m'.operate op).monitor past
  | advance {ops m' past r trace r'} (span : Nat) (h : OneByOne m ops m' past)
      (running : m'.registry = some r) (passes : Passes (m'.now + span) r trace r') :
      OneByOne m (.advance span :: ops) ⟨m'.now + span, some r'⟩ (past ++ trace.snapshots)
  | idle {ops m' past} (span : Nat) (h : OneByOne m ops m' past) (stopped : m'.registry = none) :
      OneByOne m (.advance span :: ops) ⟨m'.now + span, none⟩ past

/-- While the clock moves no probe ticks at a multiple of the interval. -/
def OffBeat (s : Settings) (interval : Duration) (ops : List Operation) : Prop :=
  ∀ later span earlier, ops = later ++ .advance span :: earlier →
    ∀ machine p, ((start s true).after earlier).probe? machine = some p → ∀ j,
      (p.ticks s j []).1.lost = false →
        (p.ticks s j []).1.deadline ≤ ((start s true).after earlier).now + span →
          ¬interval.millis ∣ (p.ticks s j []).1.deadline

theorem OffBeat.tail (h : OffBeat s interval (op :: ops)) : OffBeat s interval ops := by
  rintro later span earlier rfl
  exact h (op :: later) span earlier rfl

theorem pace_of_interval (hinterval : s.dashboardInterval = some interval) :
    pace s true = some interval := by
  rw [pace, if_pos rfl, hinterval]

theorem OnBeat.paced (h : OnBeat s true now r) (hdelay : 0 < s.delay.millis) : r.Paced := by
  obtain ⟨rfl, -, hpos⟩ := h
  exact ⟨hdelay, fun interval hinterval => hpos interval (pace_of_interval hinterval)⟩

theorem OffBeat.apart {span : Nat} (h : OffBeat s interval (.advance span :: ops))
    (hinterval : s.dashboardInterval = some interval)
    (hr : ((start s true).after ops).registry = some r) :
    r.Apart (((start s true).after ops).now + span) := by
  have hpace := pace_of_interval hinterval
  have hbeat := onBeat_of_running hr
  intro machine p next hp hnext j k alive hmeet
  have hprobe : ((start s true).after ops).probe? machine = some p := by
    rw [probe?, hr]
    exact hp
  rw [hbeat.next_eq, hpace, Option.map_some, Option.some.injEq] at hnext
  rw [hbeat.settings_eq] at alive hmeet
  rw [← hmeet, ← Nat.not_le]
  intro due
  apply h [] span ops rfl machine p hprobe j alive due
  rw [hmeet, ← hnext, hbeat.period_eq hpace, ← Nat.add_mul]
  exact Nat.dvd_mul_left _ _

/-- Timers that fire one after the other lead to the same monitor and the same snapshots. -/
theorem OneByOne.eq_after {m' : Monitor} {past : List (Stamped Snapshot)}
    (h : OneByOne (start s true) ops m' past) (hinterval : s.dashboardInterval = some interval)
    (hdelay : 0 < s.delay.millis) (off : OffBeat s interval ops) :
    m' = (start s true).after ops ∧ past = (start s true).published ops := by
  induction h with
  | nil => exact ⟨rfl, rfl⟩
  | act op timeless _ ih =>
    obtain ⟨rfl, rfl⟩ := ih off.tail
    rw [published_cons, published_of_timeless timeless, List.append_nil]
    exact ⟨rfl, rfl⟩
  | advance span _ running passes ih =>
    obtain ⟨rfl, rfl⟩ := ih off.tail
    have paced := (onBeat_of_running running).paced hdelay
    obtain ⟨rfl, hsnapshots, -⟩ := passes.eq_advance paced (off.apart hinterval running)
    rw [published_cons, after, operate, advance_of_running running, hsnapshots]
    exact ⟨rfl, rfl⟩
  | idle span _ stopped ih =>
    obtain ⟨rfl, rfl⟩ := ih off.tail
    rw [published_cons, after, operate, advance_of_stopped stopped, List.append_nil]
    exact ⟨rfl, rfl⟩

theorem exists_oneByOne (hinterval : s.dashboardInterval = some interval)
    (hdelay : 0 < s.delay.millis) (off : OffBeat s interval ops) :
    ∃ m' past, OneByOne (start s true) ops m' past := by
  induction ops with
  | nil => exact ⟨_, _, .nil⟩
  | cons op ops ih =>
    obtain ⟨m', past, h⟩ := ih off.tail
    cases op with
    | advance span =>
      cases hr : m'.registry with
      | none => exact ⟨_, _, .idle span h hr⟩
      | some r =>
        obtain ⟨rfl, -⟩ := h.eq_after hinterval hdelay off.tail
        have paced := (onBeat_of_running hr).paced hdelay
        obtain ⟨trace, r', passes⟩ := Registry.exists_passes (_ + span) paced
        exact ⟨_, _, .advance span h hr passes⟩
    | _ => exact ⟨_, _, .act _ rfl h⟩

end

/-! ## The dashboard -/

structure DashboardSpec (interval : Duration) (m : Monitor) (ops : List Operation) : Prop where
  /-- There is one snapshot at each multiple of the interval as long as the registry runs. -/
  instants : (m.published ops).map Stamped.instant = beats (m.uptime ops) interval
  upTo : ∀ t ≤ m.uptime ops,
    ((m.published ops).filter (·.instant ≤ t)).map Stamped.instant = beats t interval
  consistent : ∀ e ∈ m.published ops, Consistent m ops e

/-- Some turns of the timers lead through the operations, and all of them lead to the same. -/
structure TimersSpec (m : Monitor) (ops : List Operation) : Prop where
  arrives : ∃ m' past, OneByOne m ops m' past
  same : ∀ m' past, OneByOne m ops m' past → m' = m.after ops ∧ past = m.published ops

/-- The dashboard gets a snapshot at each multiple of its interval. Probes are asked not to tick at
such an instant only where timers fire one by one, as the tick and the snapshot may then come in
either order. -/
theorem dashboard_on_beat (s : Settings) :
    (∀ interval ops, s.dashboardInterval = some interval →
      DashboardSpec interval (start s true) ops ∧
        (0 < s.delay.millis → OffBeat s interval ops → TimersSpec (start s true) ops)) ∧
      ∀ dashboard ops, dashboard = false ∨ s.dashboardInterval = none →
        (start s dashboard).published ops = [] := by
  constructor
  · intro interval ops hinterval
    have hinstants := instants_published s true ops
    rw [pace_of_interval hinterval, Option.elim_some] at hinstants
    refine ⟨⟨hinstants, fun t ht => ?_, fun e he => consistent_of_mem_published he⟩, ?_⟩
    · have hfilter := filter_beats ht interval
      rw [← hinstants, List.filter_map] at hfilter
      exact hfilter
    · intro hdelay off
      exact ⟨exists_oneByOne hinterval hdelay off,
        fun m' past h => h.eq_after hinterval hdelay off⟩
  · intro dashboard ops hnone
    have hinstants := instants_published s dashboard ops
    have hpace : pace s dashboard = none := by
      rcases hnone with rfl | hnone
      · rfl
      · simp [pace, hnone]
    rw [hpace] at hinstants
    exact List.map_eq_nil_iff.1 hinstants

/-- Two machines that tick out of step with the dashboard, of which one is deleted at last. -/
theorem dashboard_on_beat_of_two_machines :
    ∃ (s : Settings) (interval : Duration) (ops : List Operation),
      s.dashboardInterval = some interval ∧ 0 < s.delay.millis ∧ OffBeat s interval ops ∧
        DashboardSpec interval (start s true) ops ∧ TimersSpec (start s true) ops ∧
          ((start s true).published ops).map Stamped.instant = [700, 1400, 2100] ∧
            (start s false).published ops = [] := by
  let s : Settings := ⟨⟨1000⟩, ⟨1, 1, 1⟩, some ⟨700⟩, 0⟩
  let report (machine : String) : Submission := .report machine (.ofList [("db", "pass")])
  let timers (ops : List Operation) : Nat × List Nat :=
    (((start s true).after ops).now,
      ((start s true).after ops).registry.elim [] fun r => r.probes.values.map Probe.deadline)
  have hfirst : timers [.submit [report "web"]] = (0, [1000]) := by decide +kernel
  have hsecond : timers [.submit [report "mail"], .advance 800, .submit [report "web"]] =
      (800, [1000, 1800]) := by
    decide +kernel
  have off : OffBeat s ⟨700⟩ [.submit [.delete "web"], .advance 1500, .submit [report "mail"],
      .advance 800, .submit [report "web"]] := by
    intro later span earlier hsplit machine p hp j alive hdue
    have hmem : p.deadline ∈ (timers earlier).2 := by
      obtain ⟨r, hr, hp⟩ := Option.bind_eq_some_iff.1 hp
      simp only [timers, hr]
      exact List.mem_map_of_mem (Roster.mem_values_of_find? hp)
    rw [Probe.deadline_ticks alive] at hdue ⊢
    have hdue : p.deadline + j * 1000 ≤ (timers earlier).1 + span := hdue
    change ¬700 ∣ p.deadline + j * 1000
    rcases later with _ | ⟨_, _ | ⟨_, _ | ⟨_, _ | ⟨_, _ | ⟨_, later⟩⟩⟩⟩⟩
    · cases hsplit
    · cases hsplit
      rw [hsecond] at hmem hdue
      simp only [List.mem_cons, List.not_mem_nil, or_false] at hmem
      omega
    · cases hsplit
    · cases hsplit
      rw [hfirst] at hmem hdue
      rw [List.mem_singleton] at hmem
      omega
    · cases hsplit
    · simp at hsplit
  obtain ⟨hspec, htimers⟩ := (dashboard_on_beat s).1 ⟨700⟩ _ rfl
  exact ⟨s, ⟨700⟩, _, rfl, by decide, off, hspec, htimers (by decide) off, by decide +kernel,
    (dashboard_on_beat s).2 false _ (.inl rfl)⟩

end Monitor

end Vigil

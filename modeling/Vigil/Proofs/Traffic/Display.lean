import Vigil.Config.Check
import Vigil.Proofs.Monitor.Operation
import Vigil.Proofs.Monitor.Run
import Vigil.Proofs.Traffic.Commands

/-!
# What is shown

A worker has a rung and shows a copy of it. Snapshots list what the workers show, and queries are
answered by the workers themselves; both tell of the same rung. A machine that is listed is answered
for as long as the clock reaches for its timer.
-/

namespace Vigil

/-- With distinct names, an entry of a snapshot is the one that is found by its name. -/
theorem Snapshot.get?_of_mem {snapshot : Snapshot} (distinct : (snapshot.probes.map Summary.name).Nodup)
    {e : Summary} (he : e ∈ snapshot.probes) : snapshot.get? e.name = some e := by
  obtain ⟨entries⟩ := snapshot
  unfold get?
  dsimp only at distinct he ⊢
  induction entries with
  | nil => cases he
  | cons first entries ih =>
    obtain ⟨hnew, distinct⟩ := List.nodup_cons.1 distinct
    rw [List.find?_cons]
    rcases List.mem_cons.1 he with rfl | he
    · rw [beq_self_eq_true]
    · have hne : first.name ≠ e.name := fun heq => hnew (heq ▸ List.mem_map_of_mem he)
      rw [beq_false_of_ne hne]
      exact ih distinct he

namespace Traffic

section

variable {s : Settings} {σ σ' : State} {log marks : Log} {machine : String} {serial client : Nat}
variable {p p' : Post} {hd : Handle} {state : ProbeState}

/-! ## Workers -/

/-- A worker shows the rung that it is on. -/
theorem Story.shown_eq (h : Story s serial log (some p)) :
    p.tended.probe.shown = p.tended.probe.rung := by
  generalize hp : some p = p? at h
  induction h generalizing p with
  | unborn => cases hp
  | step _ change ih =>
    cases change with
    | rest => exact ih hp
    | start | fold =>
      cases hp
      rfl
    | @tick q instant serving =>
      cases hp
      have hq : q.tended.probe.shown = q.tended.probe.rung := ih rfl
      rw [probe_tick serving.alive]
      exact Probe.shown_step (p := { q.tended.probe with deadline := instant }) hq s.thresholds instant
    | _ =>
      cases hp
      have hshown := ih rfl
      exact hshown

/-! ## Snapshots -/

theorem Run.distinct (h : Run s log σ) : (σ.snapshot.probes.map Summary.name).Nodup := by
  rw [h.names_snapshot]
  exact h.nodup

theorem Run.listed_iff (h : Run s log σ) (machine : String) :
    machine ∈ σ.snapshot.probes.map Summary.name ↔ (σ.handles machine).isSome := by
  rw [h.names_snapshot]
  exact h.ledger.keys machine

/-- A machine is listed with the rung that its worker is on. -/
theorem Run.get?_snapshot (h : Run s log σ) (hhandle : σ.handles machine = some hd)
    (hpost : σ.posts[hd.serial]? = some p) :
    p.tended.probe.name = machine ∧
      σ.snapshot.get? machine = some ⟨machine, p.tended.probe.rung⟩ := by
  have haccount := h.ledger.accounted machine hd hhandle
  have hstory := h.story hd.serial
  rw [hpost] at hstory
  have hmem : (⟨machine, p.tended.probe.rung⟩ : Summary) ∈ σ.snapshot.probes := by
    refine List.mem_filterMap.2 ⟨machine, (h.ledger.keys machine).2 (by rw [hhandle]; rfl), ?_⟩
    simp [hhandle, hpost, haccount.name_eq, hstory.shown_eq]
  refine ⟨hstory.name_eq ?_, Snapshot.get?_of_mem h.distinct hmem⟩
  exact List.mem_filter.2 ⟨haccount.started, by simp [Mark.serial?]⟩

/-- A state is told by the worker that is in it. -/
theorem Step.worker_of_state (h : Step s σ marks σ')
    (hmark : .answered client (.state (some state)) ∈ marks) :
    ∃ (serial : Nat) (p : Post), σ.posts[serial]? = some p ∧ p.tended.probe.state = state := by
  cases h with
  | @work serial p p' marks post step =>
    cases step with
    | query serving letter =>
      simp at hmark
      exact ⟨serial, p, post, hmark.2.symm⟩
    | leave running reason =>
      rcases List.mem_cons.1 hmark with hmark | hmark
      · cases hmark
      · obtain ⟨c, -, hc⟩ := List.mem_map.1 hmark
        cases hc
    | _ => simp at hmark
  | take idle message routed => cases routed_of_route routed <;> simp at hmark
  | @acknowledge client phase => cases client <;> simp at hmark
  | _ => simp [State.dismiss] at hmark

/-- What is shown of the machines in a moment of a run, and what is told of them. -/
structure ShownSpec (s : Settings) (σ : State) : Prop where
  distinct : (σ.snapshot.probes.map Summary.name).Nodup
  listed_iff : ∀ machine,
    machine ∈ σ.snapshot.probes.map Summary.name ↔ (σ.handles machine).isSome
  shown : ∀ machine hd, σ.handles machine = some hd → ∃ p, σ.posts[hd.serial]? = some p ∧
    p.tended.probe.name = machine ∧
      σ.snapshot.get? machine = some ⟨machine, p.tended.probe.rung⟩
  /-- A worker that answers tells what a snapshot would show of it, if its machine still has it. -/
  told : ∀ marks σ' client state, Step s σ marks σ' →
    .answered client (.state (some state)) ∈ marks →
      ∃ (serial : Nat) (p : Post), σ.posts[serial]? = some p ∧ p.tended.probe.state = state ∧
        (σ.handles state.name = some ⟨state.name, serial⟩ →
          σ.snapshot.get? state.name = some ⟨state.name, state.rung⟩)

theorem Run.shown_spec (h : Run s log σ) : ShownSpec s σ := by
  refine ⟨h.distinct, h.listed_iff, ?_, ?_⟩
  · intro machine hd hhandle
    have hpost := List.getElem?_eq_getElem (h.known machine hd hhandle)
    exact ⟨_, hpost, h.get?_snapshot hhandle hpost⟩
  · intro marks σ' client state step hmark
    obtain ⟨serial, p, hpost, rfl⟩ := step.worker_of_state hmark
    exact ⟨serial, p, hpost, rfl, fun hhandle => (h.get?_snapshot hhandle hpost).2⟩

end

/-! ## Registries at rest -/

section

variable {s : Settings} {dashboard : Bool} {now : Nat} {xs : List Submission} {r : Registry}
variable {alerts : List Alert} {machine : String} {p : Probe}

/-- The probe of a machine as the registry keeps it while nothing is going on. -/
structure Kept (s : Settings) (now : Nat) (machine : String) (p : Probe) : Prop where
  name_eq : p.name = machine
  shown_eq : p.shown = p.rung
  lost_eq : p.lost = !s.reaches p.deadline
  alive : s.reaches (now + s.delay.millis) = true → p.lost = false

theorem kept_of_course (h : Registry.Course s dashboard now xs r alerts)
    (hp : r.probes.find? machine = some p) : Kept s now machine p := by
  obtain ⟨-, _, ⟨log, σ, hrun, hmirrors, -, -⟩, -⟩ := reached_of_course h
  obtain ⟨hname, serial, hhandle, hpost⟩ := hmirrors.held machine p hp
  have hstory := hrun.story serial
  rw [hpost] at hstory
  refine ⟨hname, hstory.shown_eq, lost_of_course h hp, fun reach => ?_⟩
  cases hlost : p.lost with
  | false => rfl
  | true =>
    have hout := hrun.lost hpost hlost
    rw [hmirrors.now_eq, reach] at hout
    cases hout

/-- A registry that runs after some operations has taken a course up to now. -/
theorem exists_course {ops : List Monitor.Operation} (s : Settings) (dashboard : Bool)
    (running : ((Monitor.start s dashboard).after ops).registry = some r) :
    ∃ xs alerts,
      Registry.Course s dashboard ((Monitor.start s dashboard).after ops).now xs r alerts := by
  refine Monitor.running_induction (P := fun now r => ∃ xs alerts, Registry.Course s dashboard now xs
    r alerts) ?_ ?_ ?_ running
  · intro r hr
    rw [Monitor.start] at hr
    split at hr <;> cases hr
    exact ⟨_, _, .start 0⟩
  · rintro now r batch ⟨xs, alerts, h⟩
    exact ⟨_, _, h.ingest batch⟩
  · rintro now r u later ⟨xs, alerts, h⟩
    exact ⟨_, _, h.advance later⟩

end

/-- What a monitor at rest shows of its machines, and what it answers about them. -/
structure DisplaySpec (s : Settings) (m : Monitor) (snapshot : Snapshot) : Prop where
  distinct : (snapshot.probes.map Summary.name).Nodup
  /-- An answer tells of the machine what the snapshot shows of it. -/
  told : ∀ machine state, m.state machine = .ok (some state) →
    state.name = machine ∧ snapshot.get? machine = some ⟨state.name, state.rung⟩
  /-- The machines that are answered for are those that are listed, unless the clock does not reach
  for a timer that is armed now. -/
  answered : s.reaches (m.now + s.delay.millis) = true → ∀ machine,
    ∃ state?, m.state machine = .ok state? ∧
      (state?.isSome ↔ machine ∈ snapshot.probes.map Summary.name)
  /-- A machine that is listed is answered for exactly if the clock reaches for its timer. -/
  listed : ∀ machine, machine ∈ snapshot.probes.map Summary.name →
    ∃ p state?, m.probe? machine = some p ∧ m.state machine = .ok state? ∧
      (state?.isSome ↔ s.reaches p.deadline = true)
  unlisted : ∀ machine, machine ∉ snapshot.probes.map Summary.name → m.state machine = .ok none

section

variable {s : Settings} {dashboard : Bool} {xs : List Submission} {r : Registry}
variable {alerts : List Alert} {machine : String} {p : Probe} {m : Monitor}

theorem isSome_state? : p.state?.isSome ↔ p.lost = false := by
  unfold Probe.state?
  cases p.lost <;> simp

theorem eq_state_of_state? {state : ProbeState} (h : p.state? = some state) : state = p.state := by
  unfold Probe.state? at h
  split at h <;> cases h
  rfl

theorem display_of_course (hr : m.registry = some r)
    (h : Registry.Course s dashboard m.now xs r alerts) : DisplaySpec s m r.snapshot := by
  have hnames := (names_of_course h).2
  have hdistinct : (r.snapshot.probes.map Summary.name).Nodup := by
    rw [hnames]
    exact r.probes.nodup_names
  have hunlisted : ∀ machine, machine ∉ r.snapshot.probes.map Summary.name →
      r.state? machine = none := by
    intro machine hmachine
    rw [hnames, ← Roster.find?_eq_none_iff] at hmachine
    rw [Registry.state?, hmachine, Option.bind_none]
  have hlisted : ∀ machine, machine ∈ r.snapshot.probes.map Summary.name →
      ∃ p, r.probes.find? machine = some p ∧ r.state? machine = p.state? := by
    intro machine hmachine
    rw [hnames] at hmachine
    obtain ⟨p, hp⟩ := Option.isSome_iff_exists.1 (Roster.contains_iff.2 hmachine)
    exact ⟨p, hp, by rw [Registry.state?, hp, Option.bind_some]⟩
  refine ⟨hdistinct, ?_, ?_, ?_, ?_⟩
  · intro machine state htold
    rw [Monitor.state_of_running hr, Except.ok.injEq] at htold
    obtain ⟨p, hp, hstate⟩ := Option.bind_eq_some_iff.1 htold
    obtain rfl := eq_state_of_state? hstate
    obtain ⟨hname, hshown, -, -⟩ := kept_of_course h hp
    have hentry : p.summary ∈ r.snapshot.probes :=
      List.mem_map_of_mem (Roster.mem_values_of_find? hp)
    have hget := Snapshot.get?_of_mem hdistinct hentry
    refine ⟨hname, ?_⟩
    simpa [Probe.summary, Probe.state, hname, hshown] using hget
  · intro reach machine
    refine ⟨_, Monitor.state_of_running hr machine, ?_⟩
    by_cases hmachine : machine ∈ r.snapshot.probes.map Summary.name
    · obtain ⟨p, hp, hstate⟩ := hlisted machine hmachine
      simp only [hstate, isSome_state?, (kept_of_course h hp).alive reach, hmachine]
    · simp only [hunlisted machine hmachine, hmachine, Option.isSome_none, Bool.false_eq_true]
  · intro machine hmachine
    obtain ⟨p, hp, hstate⟩ := hlisted machine hmachine
    refine ⟨p, _, by rw [Monitor.probe?, hr]; exact hp, Monitor.state_of_running hr machine, ?_⟩
    rw [hstate, isSome_state?, (kept_of_course h hp).lost_eq, Bool.not_eq_false']
  · intro machine hmachine
    rw [Monitor.state_of_running hr, hunlisted machine hmachine]

end

/-- The rung that is shown of a machine is the one that its worker is on, at every moment of a run
and at rest. -/
theorem shown_as_held (s : Settings) :
    (∀ log σ, Run s log σ → ShownSpec s σ) ∧
      ∀ dashboard ops snapshot,
        ((Monitor.start s dashboard).after ops).snapshot = .ok snapshot →
          DisplaySpec s ((Monitor.start s dashboard).after ops) snapshot := by
  constructor
  · intro log σ h
    exact h.shown_spec
  · intro dashboard ops snapshot hsnapshot
    cases hr : ((Monitor.start s dashboard).after ops).registry with
    | none =>
      rw [Monitor.snapshot_of_stopped hr] at hsnapshot
      cases hsnapshot
    | some r =>
      rw [Monitor.snapshot_of_running hr] at hsnapshot
      cases hsnapshot
      obtain ⟨xs, alerts, hcourse⟩ := exists_course s dashboard hr
      exact display_of_course hr hcourse

/-- A machine that climbs two rungs at once, and another one that is deleted and comes back. -/
theorem shown_as_held_of_two_machines :
    ∃ (s : Settings) (log : Log) (σ : State) (m : Monitor) (snapshot : Snapshot),
      Run s log σ ∧ ShownSpec s σ ∧ σ.order = ["web", "mail"] ∧ DisplaySpec s m snapshot ∧
        snapshot = ⟨[⟨"web", .failed⟩, ⟨"mail", .normal⟩]⟩ ∧
          m.state "web" = .ok (some ⟨"web", .failed, 0, 0, 1⟩) := by
  let s : Settings := ⟨⟨1000⟩, ⟨1, 1, 1⟩, none, 0⟩
  let report (machine : String) : Submission := .report machine (.ofList [("db", "pass")])
  let ops : List Monitor.Operation :=
    [.submit [.delete "mail", report "mail"], .advance 1500, .submit [report "web", report "mail"]]
  have hsnapshot : ((Monitor.start s false).after ops).snapshot =
      .ok ⟨[⟨"web", .failed⟩, ⟨"mail", .normal⟩]⟩ := by
    decide +kernel
  have hcourse : Registry.Course s false 0 _ _ _ :=
    .ingest (.start 0) [report "web", report "mail"]
  obtain ⟨-, _, ⟨log, σ, hrun, hmirrors, -, -⟩, -⟩ := reached_of_course hcourse
  refine ⟨s, log, σ, _, _, hrun, (shown_as_held s).1 log σ hrun, ?_,
    (shown_as_held s).2 false ops _ hsnapshot, rfl, by decide +kernel⟩
  rw [hmirrors.order_eq]
  decide +kernel

/-- The longest delay that can be written is taken for a valid one. A machine that has reported is
then listed, but it is not answered for. -/
theorem unanswered_of_longest_delay :
    ∃ (c : Config) (s : Settings), c.inactivityDelay = "18446744073709551615s" ∧
      c.settings 0 = .ok s ∧
        ((Monitor.start s false).after [.submit [.report "a" .empty]]).snapshot =
          .ok ⟨[⟨"a", .normal⟩]⟩ ∧
        ((Monitor.start s false).after [.submit [.report "a" .empty]]).state "a" = .ok none := by
  let c : Config := { Config.default with inactivityDelay := "18446744073709551615s" }
  let s : Settings := ⟨⟨18446744073709551615000⟩, ⟨2, 3, 5⟩, some ⟨5000⟩, 0⟩
  exact ⟨c, s, rfl, by decide +kernel, by decide +kernel, by decide +kernel⟩

end Traffic

end Vigil

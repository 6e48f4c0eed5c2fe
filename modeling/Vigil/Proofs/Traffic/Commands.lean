import Vigil.Config.Check
import Vigil.Proofs.Registry.Punctual
import Vigil.Proofs.Traffic.Moments
import Vigil.Proofs.Traffic.Order

/-!
# Commands never overtake messages

Commands and messages come through queues of their own. The registry obeys a command only when there
are no messages, so that what a client is told reflects all that was submitted before it asked. A
question about a single machine goes through the mailbox of its worker, behind the reports that have
been delivered before.
-/

namespace Vigil.Traffic

def Command.client : Command → Nat
  | .snapshot client | .state client _ | .shutdown client => client

/-- The client on whose behalf the registry stops all workers, if there is one. -/
def Phase.client? : Phase → Option Nat
  | .closing client _ | .parting _ client _ => client
  | .idle | .delivering _ _ _ | .removing _ | .departing | .ended => none

/-- A worker that the registry held for a machine when it had handed over all that it had taken. -/
structure Held (log : Log) (machine : String) (serial : Nat) : Prop where
  started : .registered machine serial ∈ log
  untold : .stopped serial ∉ log
  routed : ∃ i, RegisteredAt (submissions log.taken) machine i ∧
    reportsOf machine (log.taken.drop i) =
      (log.about serial).delivered ++ (log.about serial).refused

/-- A worker that has ended, since it was told to or since the clock did not reach for its timer. -/
structure Gone (s : Settings) (now : Nat) (log : Log) (serial : Nat) : Prop where
  ended : ∃ letters, .ended serial letters ∈ log
  reason : .stopped serial ∈ log ∨ s.reaches (now + s.delay.millis) = false

/-- The state of a worker that has folded reports and has been ticking since the latest of them. Its
history has been trimmed at some points. -/
structure Told (s : Settings) (machine : String) (log : Log) (state : ProbeState) : Prop where
  name_eq : state.name = machine
  rung_eq : (state.rung, state.counter) = ladder s.thresholds log.silence
  heard_eq : log.heard? = some state.heard
  size_eq : ∃ ops, History.stored ops = log.folded.reverse ∧
    state.size = (History.empty.after ops).size

/-- The right answers to a command, which was obeyed after the log `served` and is answered after
the log `before`. -/
inductive Reflects (s : Settings) (now : Nat) (served before : Log) : Command → Answer → Prop where
  | snapshot {client snapshot}
      (listed : snapshot.probes.map Summary.name = listing (submissions served.taken)) :
      Reflects s now served before (.snapshot client) (.snapshot snapshot)
  | unregistered {client machine} (unlisted : machine ∉ listing (submissions served.taken)) :
      Reflects s now served before (.state client machine) (.state none)
  | gone {client machine serial} (held : Held served machine serial)
      (gone : Gone s now before serial) :
      Reflects s now served before (.state client machine) (.state none)
  | state {client machine serial i state} (held : Held served machine serial)
      (since : RegisteredAt (submissions served.taken) machine i)
      (folded : reportsOf machine (served.taken.drop i) <+: (before.about serial).folded)
      (told : Told s machine (before.about serial) state) :
      Reflects s now served before (.state client machine) (.state (some state))
  | stopped {client} : Reflects s now served before (.shutdown client) .stopped

/-- All that had been submitted by an earlier moment has been taken by a later one, and each report
in it has been handed over. -/
structure CaughtUp (earlier later : Log) : Prop where
  taken : earlier.submitted <+: later.taken
  handed : reports earlier.submitted <+: later.handed

/-- The command that is given after the log `start` is obeyed, and answered, with regard to all that
was submitted before. -/
structure CommandSpec (s : Settings) (now : Nat) (log start : Log) (c : Command) : Prop where
  obeyed : ∀ before after, log = before ++ .obeyed c :: after → CaughtUp start before
  answered : ∀ before answer after, log = before ++ .answered c.client answer :: after →
    ∃ instant served since, instant ≤ now ∧ before = served ++ .obeyed c :: since ∧
      CaughtUp start served ∧ Reflects s instant served before c answer

/-- The state of a machine that has reported since it was registered, in a registry at rest. -/
structure Recounts (s : Settings) (now : Nat) (xs : List Submission) (machine : String)
    (state : ProbeState) : Prop where
  name_eq : state.name = machine
  rung_eq : (state.rung, state.counter) =
    ladder s.thresholds ((now - state.heard) / s.delay.millis)
  heard_le : state.heard ≤ now
  size_eq : ∃ (i : Nat) (ops : List History.Op), RegisteredAt xs machine i ∧
    ((History.stored ops).map Report.services).reverse = servicesOf machine (xs.drop i) ∧
      state.size = (History.empty.after ops).size

/-- What a registry that has taken in some submissions tells of its machines. -/
structure AnswerSpec (s : Settings) (now : Nat) (xs : List Submission) (r : Registry) : Prop where
  listed : r.snapshot.probes.map Summary.name = listing xs
  none_iff : ∀ machine, r.state? machine = none ↔
    machine ∉ listing xs ∨
      ∃ p, r.probes.find? machine = some p ∧ s.reaches p.deadline = false
  told : ∀ machine state, r.state? machine = some state → Recounts s now xs machine state

section

variable {s : Settings} {σ σ' : State} {log before after marks : Log} {machine : String}
variable {serial client : Nat} {p p' : Post} {c : Command} {hd : Handle}

/-! ## What clients are waiting for -/

/-- A client has asked for the state of a machine, whose worker is to tell it. -/
def Asked (log : Log) (client serial : Nat) : Prop :=
  ∃ served since machine, log = served ++ .obeyed (.state client machine) :: since ∧
    Held served machine serial

theorem Asked.append (h : Asked log client serial) (marks : Log) :
    Asked (log ++ marks) client serial := by
  obtain ⟨served, since, machine, hlog, hheld⟩ := h
  exact ⟨served, since ++ marks, machine, by simp [hlog], hheld⟩

/-- Nobody waits for an answer who has not given a command. -/
structure Pending (log : Log) (σ : State) : Prop where
  asking : ∀ client serial, (client, serial) ∈ σ.asking → Asked log client serial
  letters : ∀ serial p client, σ.posts[serial]? = some p → .query client ∈ p.mailbox →
    Asked log client serial
  closing : ∀ client, σ.phase.client? = some client → .obeyed (.shutdown client) ∈ log

theorem Run.held (h : Run s log σ) (idle : σ.phase = .idle)
    (hhandle : σ.handles machine = some hd) : Held log machine hd.serial := by
  obtain ⟨-, hstarted, huntold, i, hi, hreports⟩ := h.ledger.accounted machine hd hhandle
  rw [inFlight_of_idle idle, List.append_nil] at hreports
  exact ⟨hstarted, huntold, i, hi, hreports⟩

theorem WorkerStep.mem_mailbox {now : Nat} (h : WorkerStep s now serial p marks p')
    {letter : Letter} (hletter : letter ∈ p'.mailbox) : letter ∈ p.mailbox := by
  cases h with
  | report serving first own => exact List.mem_of_mem_tail hletter
  | query serving first =>
    rw [first]
    exact List.mem_cons_of_mem _ hletter
  | leave running reason => cases hletter
  | tick | trim => exact hletter

/-- Queries come into a mailbox from those who are asking. -/
theorem Step.query (h : Step s σ marks σ') (hpost : σ'.posts[serial]? = some p')
    (hletter : .query client ∈ p'.mailbox) :
    (∃ p, σ.posts[serial]? = some p ∧ .query client ∈ p.mailbox) ∨ (client, serial) ∈ σ.asking := by
  have hmove := h.move hpost
  generalize hbefore : σ.posts[serial]? = p? at hmove
  cases hmove with
  | rest => exact .inl ⟨_, rfl, hletter⟩
  | start machine => cases hletter
  | deliver phase =>
    rcases List.mem_append.1 hletter with hletter | hletter
    · exact .inl ⟨_, rfl, hletter⟩
    · cases List.mem_singleton.1 hletter
  | ask asking =>
    rcases List.mem_append.1 hletter with hletter | hletter
    · exact .inl ⟨_, rfl, hletter⟩
    · cases List.mem_singleton.1 hletter
      exact .inr asking
  | tell => exact .inl ⟨_, rfl, hletter⟩
  | work step => exact .inl ⟨_, rfl, step.mem_mailbox hletter⟩

/-- Somebody who is asking was asking before, or has just been heard. -/
theorem Step.asking (h : Step s σ marks σ') (hasking : (client, serial) ∈ σ'.asking) :
    (client, serial) ∈ σ.asking ∨ ∃ machine hd, σ.phase = .idle ∧
      marks = [.obeyed (.state client machine)] ∧ σ.handles machine = some hd ∧
        hd.serial = serial := by
  cases h with
  | take idle message routed =>
    cases routed_of_route routed <;> exact .inl hasking
  | state idle silent command registered =>
    rcases List.mem_append.1 hasking with hasking | hasking
    · exact .inl hasking
    · cases List.mem_singleton.1 hasking
      exact .inr ⟨_, _, idle, rfl, registered, rfl⟩
  | ask asking | giveUp asking =>
    left
    rw [asking]
    rcases List.mem_append.1 hasking with hasking | hasking
    · exact List.mem_append_left _ hasking
    · exact List.mem_append_right _ (List.mem_cons_of_mem _ hasking)
  | _ => exact .inl hasking

theorem Step.closing (h : Step s σ marks σ') (hclosing : σ'.phase.client? = some client) :
    σ.phase.client? = some client ∨ .obeyed (.shutdown client) ∈ marks := by
  cases h with
  | take idle message routed =>
    cases routed_of_route routed with
    | unknown => exact .inl hclosing
    | _ => cases hclosing
  | deliver | refuse | release | acknowledge | finish | hangUp => cases hclosing
  | shutdown idle silent command drained =>
    cases hclosing
    exact .inr List.mem_cons_self
  | dismiss phase known | part phase post ended =>
    left
    rw [phase]
    exact hclosing
  | _ => exact .inl hclosing

theorem Run.pending (h : Run s log σ) : Pending log σ := by
  induction h with
  | start => exact ⟨nofun, by simp [State.start], nofun⟩
  | @step log σ marks σ' hrun running step ih =>
    refine ⟨?_, ?_, ?_⟩
    · intro client serial hasking
      rcases step.asking hasking with hasking | ⟨machine, hd, hidle, hmarks, hhandle, rfl⟩
      · exact (ih.asking client serial hasking).append marks
      · exact ⟨log, [], machine, by rw [hmarks], hrun.held hidle hhandle⟩
    · intro serial p client hpost hletter
      rcases step.query hpost hletter with ⟨q, hq, hletter⟩ | hasking
      · exact (ih.letters serial q client hq hletter).append marks
      · exact (ih.asking client serial hasking).append marks
    · intro client hclosing
      rcases step.closing hclosing with hclosing | hmark
      · exact List.mem_append_left _ (ih.closing client hclosing)
      · exact List.mem_append_right _ hmark

/-! ## Answers -/

theorem Run.gone (h : Run s log σ) (hpost : σ.posts[serial]? = some p) (ended : p.ended = true) :
    Gone s σ.now log serial := by
  refine ⟨h.ended hpost ended, ?_⟩
  rcases (h.post hpost).reason ended with htold | hlost
  · exact .inl htold
  · exact .inr (h.lost hpost hlost)

theorem mem_askers {letters : List Letter} : client ∈ askers letters ↔ .query client ∈ letters := by
  constructor
  · intro h
    obtain ⟨letter, hletter, hclient⟩ := List.mem_filterMap.1 h
    cases letter <;> cases hclient
    exact hletter
  · exact fun h => List.mem_filterMap.2 ⟨_, h, rfl⟩

/-- When a worker comes to a query, it has folded all that had been delivered before the question
was put. -/
theorem Held.folded {served since : Log} {rest : List Letter} (h : Held served machine serial)
    (mail : MailSpec (Log.about serial (served ++ since)) p) (running : p.ended = false)
    (letter : p.mailbox = .query client :: rest) :
    ∃ i, RegisteredAt (submissions served.taken) machine i ∧
      reportsOf machine (served.taken.drop i) <+: (Log.about serial (served ++ since)).folded := by
  obtain ⟨-, -, i, hi, hreports⟩ := h
  obtain ⟨hunread, hrefused⟩ := mail.running running
  have hdelivered := mail.delivered_eq
  have hrest : rest = [] := by
    have hle := mail.waiting_le
    rw [letter] at hle
    exact List.eq_nil_of_length_eq_zero (Nat.le_zero.1 (Nat.le_of_succ_le_succ hle))
  have hnone : reportsIn p.mailbox = [] := by
    rw [letter, hrest]
    rfl
  rw [hunread, hnone, List.append_nil, List.append_nil] at hdelivered
  rw [Log.about_append, Log.refused_append] at hrefused
  refine ⟨i, hi, ?_⟩
  rw [hreports, (List.append_eq_nil_iff.1 hrefused).1, List.append_nil, ← hdelivered,
    Log.about_append, Log.delivered_append]
  exact List.prefix_append _ _

theorem reportsOf_drop_ne_nil {messages : List Message} {i : Nat}
    (h : RegisteredAt (submissions messages) machine i) :
    reportsOf machine (messages.drop i) ≠ [] := by
  intro hnone
  have hservices := services_reportsOf machine (messages.drop i)
  rw [hnone, submissions, List.map_drop] at hservices
  exact servicesOf_drop_ne_nil h hservices.symm

theorem Run.told (h : Run s log σ) (hpost : σ.posts[serial]? = some p)
    (started : .registered machine serial ∈ log) (reported : (log.about serial).folded ≠ []) :
    Told s machine (log.about serial) p.tended.probe.state := by
  have hstory := h.story serial
  rw [hpost] at hstory
  obtain ⟨ops, hhistory, hstored⟩ := (h.post hpost).history_eq
  refine ⟨hstory.name_eq ?_, hstory.ladder_eq, hstory.heard_eq reported, ops, hstored, ?_⟩
  · exact List.mem_filter.2 ⟨started, by simp [Mark.serial?]⟩
  · exact congrArg History.size hhistory

/-- What a worker answers to a query. -/
theorem Run.answer_query {rest : List Letter} (h : Run s log σ)
    (hpost : σ.posts[serial]? = some p) (running : p.ended = false)
    (letter : p.mailbox = .query client :: rest) :
    ∃ c served since, c.client = client ∧ log = served ++ .obeyed c :: since ∧
      Reflects s σ.now served log c (.state (some p.tended.probe.state)) := by
  obtain ⟨served, since, machine, hlog, hheld⟩ :=
    h.pending.letters serial p client hpost (by simp [letter])
  have hmail := (h.post hpost).mail
  rw [hlog] at hmail
  obtain ⟨i, hi, hfolded⟩ := hheld.folded hmail running letter
  rw [← hlog] at hfolded
  have hstarted : .registered machine serial ∈ log := by
    rw [hlog]
    exact List.mem_append_left _ hheld.started
  have hreported : (log.about serial).folded ≠ [] := by
    intro hnone
    rw [hnone, List.prefix_nil] at hfolded
    exact reportsOf_drop_ne_nil hi hfolded
  exact ⟨.state client machine, served, since, rfl, hlog,
    .state hheld hi hfolded (h.told hpost hstarted hreported)⟩

/-- A worker that leaves answers nothing to those who are waiting for it. -/
theorem Run.answer_leave (h : Run s log σ) (hpost : σ.posts[serial]? = some p)
    (reason : p.stopping = true ∨ p.tended.probe.lost = true) (hletter : .query client ∈ p.mailbox)
    (first : Log) :
    ∃ c served since, c.client = client ∧
      log ++ .ended serial p.mailbox :: first = served ++ .obeyed c :: since ∧
        Reflects s σ.now served (log ++ .ended serial p.mailbox :: first) c (.state none) := by
  obtain ⟨served, since, machine, hlog, hheld⟩ := h.pending.letters serial p client hpost hletter
  refine ⟨.state client machine, served, since ++ .ended serial p.mailbox :: first, rfl,
    by simp [hlog], .gone hheld ⟨⟨p.mailbox, by simp⟩, ?_⟩⟩
  rcases reason with htold | hlost
  · have hstory := h.story serial
    rw [hpost] at hstory
    exact .inl (List.mem_append_left _ (List.mem_filter.1 (hstory.stop.told_iff.1 htold)).1)
  · exact .inr (h.lost hpost hlost)

/-- Each answer is one to a command that has been obeyed. -/
theorem Step.answer {answer : Answer} {first rest : Log} (hrun : Run s log σ)
    (h : Step s σ (first ++ .answered client answer :: rest) σ') :
    ∃ c served since, c.client = client ∧ log ++ first = served ++ .obeyed c :: since ∧
      Reflects s σ.now served (log ++ first) c answer := by
  generalize hmarks : first ++ .answered client answer :: rest = marks at h
  have hmem : .answered client answer ∈ marks := by
    rw [← hmarks]
    exact List.mem_append_right _ List.mem_cons_self
  cases h with
  | snapshot idle silent command =>
    rcases first with _ | ⟨mark, _ | ⟨mark', first⟩⟩ <;> simp at hmarks
    obtain ⟨rfl, ⟨rfl, rfl⟩, -⟩ := hmarks
    refine ⟨.snapshot client, log, [], rfl, rfl, .snapshot ?_⟩
    rw [hrun.names_snapshot]
    exact hrun.ledger.order_eq (by rw [idle]; rfl)
  | @noState client' machine rest' idle silent command unregistered =>
    rcases first with _ | ⟨mark, _ | ⟨mark', first⟩⟩ <;> simp at hmarks
    obtain ⟨rfl, ⟨rfl, rfl⟩, -⟩ := hmarks
    refine ⟨.state client machine, log, [], rfl, rfl, .unregistered ?_⟩
    rw [← hrun.ledger.order_eq (by rw [idle]; rfl), hrun.ledger.keys, unregistered]
    exact Bool.false_ne_true
  | @acknowledge client? phase =>
    rcases client? with _ | client' <;> rcases first with _ | ⟨mark, first⟩ <;> simp at hmarks
    obtain ⟨⟨rfl, rfl⟩, -⟩ := hmarks
    have hobeyed := hrun.pending.closing client (by rw [phase]; rfl)
    obtain ⟨served, since, hlog⟩ := List.append_of_mem hobeyed
    exact ⟨.shutdown client, served, since, rfl, by simp [hlog], .stopped⟩
  | @giveUp client' serial p before after asking post ended =>
    rcases first with _ | ⟨mark, first⟩ <;> simp at hmarks
    obtain ⟨⟨rfl, rfl⟩, -⟩ := hmarks
    rw [List.append_nil]
    obtain ⟨served, since, machine, hlog, hheld⟩ :=
      hrun.pending.asking client serial (by simp [asking])
    exact ⟨.state client machine, served, since, rfl, hlog, .gone hheld (hrun.gone post ended)⟩
  | @work serial p p' marks post step =>
    cases step with
    | query serving letter =>
      rcases first with _ | ⟨mark, first⟩ <;> simp at hmarks
      obtain ⟨⟨rfl, rfl⟩, -⟩ := hmarks
      rw [List.append_nil]
      exact hrun.answer_query post serving.running letter
    | leave running reason =>
      rcases first with _ | ⟨mark, first⟩ <;> simp at hmarks
      obtain ⟨rfl, hmarks⟩ := hmarks
      have hleft : .answered client answer ∈
          (askers p.mailbox).map fun c => Mark.answered c (.state none) := by
        rw [← hmarks]
        exact List.mem_append_right _ List.mem_cons_self
      obtain ⟨client', hclient, heq⟩ := List.mem_map.1 hleft
      cases heq
      exact hrun.answer_leave post reason (mem_askers.1 hclient) first
    | _ => simp at hmem
  | take idle message routed => cases routed_of_route routed <;> simp at hmem
  | _ => simp [State.dismiss] at hmem

theorem Run.answer {answer : Answer} (h : Run s log σ)
    (hsplit : log = before ++ .answered client answer :: after) :
    ∃ instant c served since, instant ≤ σ.now ∧ c.client = client ∧
      before = served ++ .obeyed c :: since ∧ Reflects s instant served before c answer := by
  obtain ⟨log₁, σ₁, first, rest, σ₂, hrun, step, rfl, hnow⟩ := h.step_of_mark hsplit
  obtain ⟨c, served, since, hclient, hbefore, hreflects⟩ := step.answer hrun
  exact ⟨σ₁.now, c, served, since, hnow, hclient, hbefore, hreflects⟩

/-! ## The order of commands and messages -/

theorem Run.caughtUp {start rest : Log} (h : Run s log σ)
    (hstart : log = start ++ .commanded c :: rest)
    (honce : ∀ c', .commanded c' ∈ start ++ rest → c'.client ≠ c.client)
    (hsplit : log = before ++ .obeyed c :: after) : CaughtUp start before := by
  obtain ⟨σ₁, hrun, hidle, hsilent, -⟩ := h.obeying hsplit
  have hgiven := h.given hsplit
  have hqueue := hrun.queue
  have hhanded := hrun.handed
  rw [hsilent, List.append_nil] at hqueue
  rw [awaited_of_phase_ne (by simp [hidle]), List.append_nil] at hhanded
  have hprefix : start <+: before := by
    rw [hstart] at hsplit
    rcases List.append_eq_append_iff.1 hsplit with ⟨more, hmore, -⟩ | ⟨more, hmore, -⟩
    · exact ⟨more, hmore.symm⟩
    · have hmem : .commanded c ∈ start ++ rest := by
        rw [hmore]
        simp [hgiven]
      exact absurd rfl (honce c hmem)
  obtain ⟨more, rfl⟩ := hprefix
  constructor
  · rw [← hqueue, Log.submitted_append]
    exact List.prefix_append _ _
  · rw [← hhanded, ← hqueue, Log.submitted_append, reports_append]
    exact List.prefix_append _ _

theorem Run.command {start rest : Log} (h : Run s log σ)
    (hstart : log = start ++ .commanded c :: rest)
    (honce : ∀ c', .commanded c' ∈ start ++ rest → c'.client ≠ c.client) :
    CommandSpec s σ.now log start c := by
  refine ⟨fun before after hsplit => h.caughtUp hstart honce hsplit, ?_⟩
  intro before answer after hsplit
  obtain ⟨instant, c', served, since, hinstant, hclient, hbefore, hreflects⟩ := h.answer hsplit
  have hlog : log = served ++ .obeyed c' :: (since ++ .answered c.client answer :: after) := by
    simp [hsplit, hbefore]
  have hsame : c' = c := by
    have hmem : .commanded c' ∈ start ++ .commanded c :: rest := by
      rw [← hstart, hlog]
      exact List.mem_append_left _ (h.given hlog)
    rcases List.mem_append.1 hmem with hmem | hmem
    · exact absurd hclient (honce c' (List.mem_append_left _ hmem))
    · rcases List.mem_cons.1 hmem with heq | hmem
      · cases heq
        rfl
      · exact absurd hclient (honce c' (List.mem_append_right _ hmem))
  subst hsame
  exact ⟨instant, served, since, hinstant, hbefore, h.caughtUp hstart honce hlog, hreflects⟩

end

/-! ## Batches -/

theorem lost_of_course {s : Settings} {dashboard : Bool} {now : Nat} {xs : List Submission}
    {r : Registry} {alerts : List Alert} (h : Registry.Course s dashboard now xs r alerts)
    {machine : String} {p : Probe} (hp : r.probes.find? machine = some p) :
    p.lost = !s.reaches p.deadline := by
  obtain ⟨-, _, ⟨log, σ, hrun, hmirrors, -, -⟩, -⟩ := reached_of_course h
  exact hmirrors.lost_eq hrun hp

theorem punctual_of_course {s : Settings} {dashboard : Bool} {now : Nat} {xs : List Submission}
    {r : Registry} {alerts : List Alert} (h : Registry.Course s dashboard now xs r alerts) :
    r.Punctual s now := by
  induction h with
  | start now => exact Registry.punctual_start s dashboard now
  | @ingest now xs r alerts h batch ih => exact (r.reworked_ingest now batch).punctual ih
  | advance h later ih => exact ih.advance later

theorem answers_of_course {s : Settings} {dashboard : Bool} {now : Nat} {xs : List Submission}
    {r : Registry} {alerts : List Alert} (h : Registry.Course s dashboard now xs r alerts) :
    AnswerSpec s now xs r := by
  obtain ⟨hlisting, hnames⟩ := names_of_course h
  refine ⟨hnames.trans hlisting, ?_, ?_⟩
  · intro machine
    rw [← hlisting, ← Roster.find?_eq_none_iff, Registry.state?]
    cases hp : r.probes.find? machine with
    | none => simp
    | some p =>
      have hlost := lost_of_course h hp
      cases hreach : s.reaches p.deadline <;> simp [Probe.state?, hlost, hreach]
  · intro machine state hstate
    obtain ⟨p, hp, hstate⟩ := Option.bind_eq_some_iff.1 hstate
    cases hlost : p.lost with
    | true => simp [Probe.state?, hlost] at hstate
    | false =>
      simp [Probe.state?, hlost] at hstate
      subst hstate
      obtain ⟨i, ops, hi, hhistory, hstored⟩ := folded_of_course h hp hlost
      obtain ⟨hheard, hticked⟩ := (punctual_of_course h).probes machine p hp hlost
      exact ⟨name_of_course h hp, hticked.rung_eq, hheard, i, ops, hi, hstored,
        congrArg History.size hhistory⟩

/-- A command that a client gives only once is answered with regard to all that was submitted
before, whether the workers go their own ways or take turns with the registry. -/
theorem commands_never_overtake (s : Settings) :
    (∀ log σ, Run s log σ → ∀ start c rest, log = start ++ .commanded c :: rest →
      (∀ c', .commanded c' ∈ start ++ rest → c'.client ≠ c.client) →
        CommandSpec s σ.now log start c) ∧
      ∀ dashboard now xs r alerts, Registry.Course s dashboard now xs r alerts →
        AnswerSpec s now xs r := by
  constructor
  · intro log σ h start c rest hstart honce
    exact h.command hstart honce
  · intro dashboard now xs r alerts h
    exact answers_of_course h

/-- A client asks for the state of a machine before the registry has taken its first report. -/
theorem commands_never_overtake_of_first_report :
    (∃ (s : Settings) (start before : Log) (c : Command) (log : Log) (σ : State)
        (state : ProbeState),
      Run s log σ ∧ CommandSpec s σ.now log start c ∧ start.submitted.length = 1 ∧
        log = before ++ [.answered c.client (.state (some state))] ∧ state.size = 1) ∧
      ∃ (s : Settings) (xs : List Submission) (r : Registry) (alerts : List Alert),
        Registry.Course s false 0 xs r alerts ∧ AnswerSpec s 0 xs r ∧
          r.snapshot.probes.map Summary.name = ["web"] := by
  let s : Settings := ⟨⟨1000⟩, ⟨1, 1, 1⟩, none, 0⟩
  let services : Roster String := .ofList [("db", "pass")]
  constructor
  · let c : Command := .state 7 "web"
    let m : Message := ⟨1, .report "web" services⟩
    have hasked := ((Run.start (s := s) 0).step rfl (.submit m nofun (by decide))).step rfl
      (.command c nofun (by decide))
    have hdelivered := (hasked.step rfl (.take rfl rfl rfl)).step rfl (.deliver rfl rfl rfl rfl)
    let post : Post := ⟨⟨.start s "web" 0 .empty, 0⟩, [.report "web" ⟨1, services⟩], false, false⟩
    have hfold : WorkerStep s 0 0 post _ _ := .report ⟨rfl, rfl, rfl⟩ rfl rfl
    have hobeyed := (hdelivered.step rfl (.work rfl hfold)).step rfl (.state rfl rfl rfl rfl)
    have hput := hobeyed.step rfl (@Step.ask _ _ 7 0 _ [] [] rfl rfl rfl rfl)
    let post' : Post := (post.fold s 0 ⟨1, services⟩).1.put (.query 7)
    have hquery : WorkerStep s 0 0 post' _ _ := .query ⟨rfl, rfl, by decide +kernel⟩ rfl
    have h := hput.step rfl (.work rfl hquery)
    have hspec := (commands_never_overtake s).1 _ _ h [.submitted m] c _ rfl (by simp)
    exact ⟨s, _, _, c, _, _, _, h, hspec, rfl, rfl, by decide +kernel⟩
  · have h : Registry.Course s false 0 _ _ _ := .ingest (.start 0) [.report "web" services]
    exact ⟨s, _, _, _, h, (commands_never_overtake s).2 _ _ _ _ _ h, by decide +kernel⟩

/-- The longest delay that can be written is taken for a valid one. The worker of a machine is then
lost with the first report, and a client who asks for its state is told that there is none, although
the machine is registered and nobody has told its worker to stop. -/
theorem untold_with_longest_delay :
    ∃ (c : Config) (s : Settings) (served since : Log) (σ : State),
      c.inactivityDelay = "18446744073709551615s" ∧ c.settings 0 = .ok s ∧
        Run s (served ++ .obeyed (.state 7 "web") :: since ++ [.answered 7 (.state none)]) σ ∧
          listing (submissions served.taken) = ["web"] ∧
            ∀ serial, .stopped serial ∉ served ++ .obeyed (.state 7 "web") :: since := by
  let c : Config := { Config.default with inactivityDelay := "18446744073709551615s" }
  let s : Settings := ⟨⟨18446744073709551615000⟩, ⟨2, 3, 5⟩, some ⟨5000⟩, 0⟩
  let m : Message := ⟨1, .report "web" .empty⟩
  have hasked := ((Run.start (s := s) 0).step rfl (.submit m nofun (by decide))).step rfl
    (.command (.state 7 "web") nofun (by decide))
  have hdelivered := (hasked.step rfl (.take rfl rfl rfl)).step rfl (.deliver rfl rfl rfl rfl)
  let post : Post := ⟨⟨.start s "web" 0 .empty, 0⟩, [.report "web" ⟨1, .empty⟩], false, false⟩
  have hfold : WorkerStep s 0 0 post _ _ := .report ⟨rfl, rfl, rfl⟩ rfl rfl
  have hobeyed := (hdelivered.step rfl (.work rfl hfold)).step rfl (.state rfl rfl rfl rfl)
  have hleave : WorkerStep s 0 0 (post.fold s 0 ⟨1, .empty⟩).1 _ _ :=
    .leave rfl (.inr (by decide +kernel))
  have hgone := hobeyed.step rfl (.work rfl hleave)
  have h := hgone.step rfl (@Step.giveUp _ _ 7 0 _ [] [] rfl rfl rfl)
  let served : Log := [.submitted m, .commanded (.state 7 "web"), .taken m, .registered "web" 0,
    .delivered 0 ⟨1, .empty⟩, .folded 0 0 ⟨1, .empty⟩ []]
  exact ⟨c, s, served, [.ended 0 []], _, rfl, by decide +kernel, h, by decide +kernel,
    by simp [served]⟩

end Vigil.Traffic

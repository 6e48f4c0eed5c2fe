import Vigil.Proofs.Probe.Ladder
import Vigil.Proofs.Traffic.Delivery
import Vigil.Proofs.Traffic.Moves

/-!
# Moments of a run

Each mark in the log of a run was left by one of its steps, and the log up to there is that of a run
too. When the registry obeys a command it is idle and the ingress is empty, so that all that had
been submitted by then has been routed.
-/

namespace Vigil.Traffic

def Mark.commanded? : Mark → Option Command
  | .commanded c => some c
  | _ => none

def Mark.obeyed? : Mark → Option Command
  | .obeyed c => some c
  | _ => none

/-- The report that the registry is done with. -/
def Mark.handed? : Mark → Option Report
  | .delivered _ r | .refused _ r => some r
  | _ => none

/-- The number of ticks of a silence after a mark, which was `n` before. -/
def Mark.tally (n : Nat) : Mark → Nat
  | .folded _ _ _ _ => 0
  | .ticked _ _ => n + 1
  | _ => n

/-- The instant of the latest report that has been folded after a mark, if it was `heard?` before.
-/
def Mark.hear (heard? : Option Nat) : Mark → Option Nat
  | .folded _ now _ _ => some now
  | _ => heard?

namespace Log

def commanded (log : Log) : List Command :=
  log.filterMap Mark.commanded?

def obeyed (log : Log) : List Command :=
  log.filterMap Mark.obeyed?

/-- The reports that the registry has handed over to their workers, whether these took them or had
ended before. -/
def handed (log : Log) : List Report :=
  log.filterMap Mark.handed?

/-- The number of ticks since the latest report that was folded. -/
def silence (log : Log) : Nat :=
  log.foldl Mark.tally 0

/-- The instant of the latest report that was folded. -/
def heard? (log : Log) : Option Nat :=
  log.foldl Mark.hear none

variable (xs ys : Log)

@[simp] theorem commanded_append : commanded (xs ++ ys) = commanded xs ++ commanded ys :=
  List.filterMap_append

@[simp] theorem obeyed_append : obeyed (xs ++ ys) = obeyed xs ++ obeyed ys :=
  List.filterMap_append

@[simp] theorem handed_append : handed (xs ++ ys) = handed xs ++ handed ys :=
  List.filterMap_append

theorem silence_append : silence (xs ++ ys) = ys.foldl Mark.tally (silence xs) :=
  List.foldl_append

theorem heard?_append : heard? (xs ++ ys) = ys.foldl Mark.hear (heard? xs) :=
  List.foldl_append

theorem mem_commanded {log : Log} {c : Command} : c ∈ log.commanded ↔ .commanded c ∈ log := by
  constructor
  · intro h
    obtain ⟨mark, hmark, hc⟩ := List.mem_filterMap.1 h
    cases mark <;> cases hc
    exact hmark
  · exact fun h => List.mem_filterMap.2 ⟨_, h, rfl⟩

end Log

/-- The reports among messages, of whichever machines. -/
def reports (messages : List Message) : List Report :=
  messages.filterMap fun m =>
    match m.submission with
    | .report _ services => some ⟨m.timestamp, services⟩
    | .delete _ => none

/-- The report that the registry is waiting to deliver, if there is one. -/
def State.awaited (σ : State) : List Report :=
  match σ.phase with
  | .delivering _ _ r => [r]
  | _ => []

section

variable {s : Settings} {σ σ' : State} {log before after marks : Log} {machine : String}
variable {serial : Nat} {p : Post} {c : Command}

/-! ## Steps -/

theorem Step.now_le (h : Step s σ marks σ') : σ.now ≤ σ'.now := by
  cases h with
  | pass span => exact Nat.le_add_right _ _
  | take idle message routed => cases routed_of_route routed <;> exact Nat.le_refl _
  | _ => exact Nat.le_refl _

/-- Each mark was left by a step, at the end of a run. -/
theorem Run.step_of_mark (h : Run s log σ) {mark : Mark} (hsplit : log = before ++ mark :: after) :
    ∃ log₁ σ₁ first rest σ₂, Run s log₁ σ₁ ∧ Step s σ₁ (first ++ mark :: rest) σ₂ ∧
      before = log₁ ++ first ∧ σ₁.now ≤ σ.now := by
  induction h generalizing after with
  | start => simp at hsplit
  | @step log σ marks σ' hrun running step ih =>
    rcases Log.split_append hsplit with ⟨first, hbefore, hmarks⟩ | ⟨rest, hlog, -⟩
    · rw [hmarks] at step
      exact ⟨log, σ, first, after, σ', hrun, step, hbefore, step.now_le⟩
    · obtain ⟨log₁, σ₁, first, rest, σ₂, hrun₁, hstep₁, hbefore, hnow⟩ := ih hlog
      exact ⟨log₁, σ₁, first, rest, σ₂, hrun₁, hstep₁, hbefore, Nat.le_trans hnow step.now_le⟩

/-! ## Commands -/

theorem WorkerStep.uncommanded {now : Nat} {p' : Post} (h : WorkerStep s now serial p marks p') :
    marks.commanded = [] ∧ marks.obeyed = [] ∧ ∀ c, .obeyed c ∉ marks := by
  cases h with
  | leave running reason =>
    refine ⟨?_, ?_, ?_⟩ <;> simp [Log.commanded, Log.obeyed, Mark.commanded?, Mark.obeyed?]
  | _ => exact ⟨rfl, rfl, by simp⟩

/-- The commands are a queue. -/
theorem Step.commands (h : Step s σ marks σ') :
    σ.commands ++ marks.commanded = marks.obeyed ++ σ'.commands := by
  cases h with
  | command c running room => rfl
  | snapshot idle silent command | state idle silent command registered
  | noState idle silent command unregistered | shutdown idle silent command drained =>
    rw [command]
    exact List.append_nil _
  | take idle message routed =>
    cases routed_of_route routed <;> exact List.append_nil _
  | @acknowledge client phase => cases client <;> exact List.append_nil _
  | work post step =>
    rw [step.uncommanded.1, step.uncommanded.2.1]
    exact List.append_nil _
  | _ => exact List.append_nil _

theorem Run.commands (h : Run s log σ) : log.commanded = log.obeyed ++ σ.commands := by
  induction h with
  | start => rfl
  | step hrun running step ih =>
    rw [Log.commanded_append, Log.obeyed_append, ih, List.append_assoc, step.commands,
      List.append_assoc]

/-- The registry obeys the first of the commands, once there are no messages. -/
theorem Step.obeying (h : Step s σ marks σ') (hmark : .obeyed c ∈ marks) :
    σ.phase = .idle ∧ σ.ingress = [] ∧ (∃ rest, σ.commands = c :: rest) ∧
      ∃ rest, marks = .obeyed c :: rest ∧ .obeyed c ∉ rest := by
  cases h with
  | snapshot idle silent command | noState idle silent command unregistered
  | state idle silent command registered | shutdown idle silent command drained =>
    simp at hmark
    subst hmark
    exact ⟨idle, silent, ⟨_, command⟩, _, rfl, by simp⟩
  | take idle message routed => cases routed_of_route routed <;> simp at hmark
  | @acknowledge client phase => cases client <;> simp at hmark
  | work post step => exact absurd hmark (step.uncommanded.2.2 c)
  | _ => simp [State.dismiss] at hmark

/-- The moment in which a command is obeyed. -/
theorem Run.obeying (h : Run s log σ) (hsplit : log = before ++ .obeyed c :: after) :
    ∃ σ₁, Run s before σ₁ ∧ σ₁.phase = .idle ∧ σ₁.ingress = [] ∧
      ∃ rest, σ₁.commands = c :: rest := by
  obtain ⟨log₁, σ₁, first, rest, σ₂, hrun, step, hbefore, -⟩ := h.step_of_mark hsplit
  obtain ⟨hidle, hsilent, hcommand, rest', hmarks, hnone⟩ :=
    step.obeying (List.mem_append_right _ List.mem_cons_self)
  rcases first with _ | ⟨mark, first⟩
  · rw [List.append_nil] at hbefore
    rw [hbefore]
    exact ⟨σ₁, hrun, hidle, hsilent, hcommand⟩
  · cases hmarks
    exact absurd (List.mem_append_right _ List.mem_cons_self) hnone

/-- A command is obeyed only after it has been given. -/
theorem Run.given (h : Run s log σ) (hsplit : log = before ++ .obeyed c :: after) :
    .commanded c ∈ before := by
  obtain ⟨σ₁, hrun, -, -, rest, hcommands⟩ := h.obeying hsplit
  apply Log.mem_commanded.1
  rw [hrun.commands, hcommands]
  exact List.mem_append_right _ List.mem_cons_self

/-! ## Routing -/

theorem reports_append (xs ys : List Message) : reports (xs ++ ys) = reports xs ++ reports ys :=
  List.filterMap_append

theorem handed_of_unrouted (h : ∀ mark ∈ marks, mark.isRouting = false) : marks.handed = [] := by
  apply List.filterMap_eq_nil_iff.2
  intro mark hmark
  have hrouting := h mark hmark
  cases mark <;> first | rfl | cases hrouting

theorem awaited_of_phase_ne (h : ∀ target machine r, σ.phase ≠ .delivering target machine r) :
    σ.awaited = [] := by
  unfold State.awaited
  split
  · rename_i heq
    exact absurd heq (h _ _ _)
  · rfl

theorem Step.handed (h : Step s σ marks σ') :
    σ.awaited ++ reports marks.taken = marks.handed ++ σ'.awaited := by
  cases h with
  | @take σ' m rest marks idle message routed =>
    have hidle : σ.awaited = [] := awaited_of_phase_ne (by simp [idle])
    cases routed_of_route routed with
    | report message | first message =>
      rw [hidle]
      simp [Log.taken, Log.handed, Mark.handed?, reports, message, State.awaited]
    | delete message | unknown message =>
      rw [hidle]
      simp [Log.taken, Log.handed, Mark.handed?, reports, message, State.awaited, idle]
  | @takeFails m rest v idle message failed =>
    obtain ⟨σ', marks, hroute, -⟩ := exists_routed s m { σ with ingress := rest }
    rw [failed] at hroute
    cases hroute
  | deliver phase post running room | refuse phase post ended =>
    simp [Log.taken, Log.handed, Mark.handed?, reports, State.awaited, phase]
  | release phase | part phase | dismiss phase =>
    simp [Log.taken, Log.handed, Mark.handed?, reports, State.awaited, State.dismiss, phase]
  | @acknowledge client phase =>
    cases client <;> simp [Log.taken, Log.handed, Mark.handed?, reports, State.awaited, phase]
  | finish phase => simp [Log.taken, Log.handed, Mark.handed?, reports, State.awaited, phase]
  | shutdown idle silent command drained | hangUp idle silent quiet drained =>
    simp [Log.taken, Log.handed, Mark.handed?, reports, State.awaited, State.close, idle]
  | work post step =>
    have hunrouted := fun mark hmark => (step.unrouted mark hmark).1
    rw [taken_of_unrouted hunrouted, handed_of_unrouted hunrouted]
    exact List.append_nil _
  | _ => exact List.append_nil _

/-- The registry is done with all the reports that it has taken, in their order, apart from the one
that it is waiting to deliver. -/
theorem Run.handed (h : Run s log σ) : reports log.taken = log.handed ++ σ.awaited := by
  induction h with
  | start => rfl
  | step hrun running step ih =>
    rw [Log.taken_append, reports_append, Log.handed_append, ih, List.append_assoc, step.handed,
      List.append_assoc]

/-! ## Workers -/

theorem probe_tick (alive : p.tended.probe.lost = false) (instant : Nat) :
    (p.tick s instant).1.tended.probe =
      ((({ p.tended.probe with deadline := instant } : Probe).step s.thresholds instant).1.arm s
        instant) := by
  have halive : ({ p.tended.probe with deadline := instant } : Probe).lost = false := alive
  exact congrArg Prod.fst (Probe.tick_of_alive halive s)

/-- The rung and the counter of a worker are those that its silence leads to. -/
theorem Story.ladder_eq (h : Story s serial log (some p)) :
    (p.tended.probe.rung, p.tended.probe.counter) = ladder s.thresholds log.silence := by
  generalize hp : some p = p? at h
  induction h generalizing p with
  | unborn => cases hp
  | @step log p? marks p?' hstory change ih =>
    cases change with
    | rest =>
      rw [List.append_nil]
      exact ih hp
    | start machine now =>
      cases hp
      rw [hstory.eq_nil]
      rfl
    | fold now serving letter =>
      cases hp
      rw [Log.silence_append]
      rfl
    | @tick q instant serving =>
      cases hp
      have htick := Probe.step_ladder (p := { q.tended.probe with deadline := instant })
        (ih rfl) instant
      rw [Log.silence_append, probe_tick serving.alive]
      exact htick.rung_eq
    | _ =>
      cases hp
      have hladder := ih rfl
      rw [Log.silence_append]
      exact hladder

/-- A worker remembers the instant of the latest report that it has folded. -/
theorem Story.heard_eq (h : Story s serial log (some p)) (reported : log.folded ≠ []) :
    log.heard? = some p.tended.probe.heard := by
  generalize hp : some p = p? at h
  induction h generalizing p with
  | unborn => cases hp
  | @step log p? marks p?' hstory change ih =>
    cases change with
    | rest =>
      rw [List.append_nil] at reported ⊢
      exact ih reported hp
    | start machine now =>
      rw [hstory.eq_nil] at reported
      exact absurd rfl reported
    | fold now serving letter =>
      cases hp
      rw [Log.heard?_append]
      rfl
    | @tick q instant serving =>
      cases hp
      rw [Log.folded_append] at reported
      have hheard := ih (by simpa [Log.folded, Mark.folded?] using reported) rfl
      obtain ⟨rung, counter, shown, publications, hframe⟩ := Probe.step_frame s.thresholds instant
        { q.tended.probe with deadline := instant }
      rw [Log.heard?_append, hheard, probe_tick serving.alive, hframe]
      rfl
    | _ =>
      cases hp
      rw [Log.folded_append] at reported
      have hheard := ih (by simpa [Log.folded, Mark.folded?] using reported) rfl
      rw [Log.heard?_append]
      exact hheard

/-- A worker that has ended has left a mark of it. -/
theorem Story.ended (h : Story s serial log (some p)) (ended : p.ended = true) :
    ∃ letters, .ended serial letters ∈ log := by
  generalize hp : some p = p? at h
  induction h generalizing p with
  | unborn => cases hp
  | step hstory change ih =>
    cases change with
    | rest =>
      rw [List.append_nil]
      exact ih ended hp
    | start machine now =>
      cases hp
      cases ended
    | leave running reason => exact ⟨_, List.mem_append_right _ List.mem_cons_self⟩
    | _ =>
      cases hp
      obtain ⟨letters, hmem⟩ := ih (by exact ended) rfl
      exact ⟨letters, List.mem_append_left _ hmem⟩

theorem Run.ended (h : Run s log σ) (hpost : σ.posts[serial]? = some p) (ended : p.ended = true) :
    ∃ letters, .ended serial letters ∈ log := by
  have hstory := h.story serial
  rw [hpost] at hstory
  obtain ⟨letters, hmem⟩ := hstory.ended ended
  exact ⟨letters, (List.mem_filter.1 hmem).1⟩

theorem WorkerStep.lost {now : Nat} {p' : Post} (h : WorkerStep s now serial p marks p')
    (lost : p'.tended.probe.lost = true) :
    p.tended.probe.lost = true ∨ s.reaches (now + s.delay.millis) = false := by
  cases h with
  | report serving letter own =>
    right
    simpa [Post.fold, Probe.Tended.serve, Probe.serve, Probe.fold, Probe.arm] using lost
  | @tick instant serving empty due past =>
    right
    rw [probe_tick serving.alive] at lost
    have hout : s.reaches (instant + s.delay.millis) = false := by
      simpa [Probe.arm] using lost
    exact Settings.not_reaches_of_le (Nat.add_le_add_right past _) hout
  | query | leave | trim => exact .inl lost

/-- The timer of a worker that is lost would have to fire beyond the reach of the clock. -/
theorem Run.lost (h : Run s log σ) (hpost : σ.posts[serial]? = some p)
    (lost : p.tended.probe.lost = true) : s.reaches (σ.now + s.delay.millis) = false := by
  induction h generalizing p with
  | start => simp [State.start] at hpost
  | @step log σ marks σ' hrun running step ih =>
    have hmove := step.move hpost
    generalize hbefore : σ.posts[serial]? = p? at hmove
    apply Settings.not_reaches_of_le (Nat.add_le_add_right step.now_le _)
    cases hmove with
    | start machine => cases lost
    | work step =>
      rcases step.lost lost with hlost | hout
      · exact ih hbefore hlost
      · exact hout
    | _ => exact ih hbefore (by exact lost)

/-- A timer is armed when a report is folded or the timer has fired. From then on the worker is lost
exactly if the clock does not reach for it. -/
theorem Story.lost_eq (h : Story s serial log (some p)) :
    p.tended.probe.lost = !s.reaches p.tended.probe.deadline ∨
      p.tended.probe.lost = false ∧ log.folded = [] := by
  generalize hp : some p = p? at h
  induction h generalizing p with
  | unborn => cases hp
  | step hstory change ih =>
    cases change with
    | rest =>
      rw [List.append_nil]
      exact ih hp
    | start machine now =>
      cases hp
      rw [hstory.eq_nil]
      exact .inr ⟨rfl, rfl⟩
    | fold now serving letter =>
      cases hp
      exact .inl rfl
    | tick instant serving =>
      cases hp
      rw [probe_tick serving.alive]
      exact .inl rfl
    | _ =>
      cases hp
      rw [Log.folded_append]
      exact (ih rfl).imp_right fun ⟨alive, hfolded⟩ => ⟨alive, by rw [hfolded]; rfl⟩

/-! ## Registries at rest -/

theorem servicesOf_drop_ne_nil {xs : List Submission} {machine : String} {i : Nat}
    (h : RegisteredAt xs machine i) : servicesOf machine (xs.drop i) ≠ [] := by
  obtain ⟨⟨⟨services, hi⟩, -⟩, -⟩ := h
  obtain ⟨hlt, hget⟩ := List.getElem?_eq_some_iff.1 hi
  rw [List.drop_eq_getElem_cons hlt, hget]
  simp [servicesOf]

/-- A worker at rest has folded the report at which its machine was registered. -/
theorem Mirrors.lost_eq {now : Nat} {names : List String}
    {probe? : String → Option Probe} (hmirrors : Mirrors now names probe? (fun _ => none) .idle σ)
    (h : Run s log σ) {p : Probe} (hp : probe? machine = some p) :
    p.lost = !s.reaches p.deadline := by
  cases hlost : p.lost with
  | true =>
    obtain ⟨-, serial, -, hpost⟩ := hmirrors.held machine p hp
    have hstory := h.story serial
    rw [hpost] at hstory
    rcases hstory.lost_eq with heq | ⟨alive, -⟩
    · exact hlost.symm.trans heq
    · exact absurd (hlost.symm.trans alive) nofun
  | false =>
    obtain ⟨serial, i, hpost, hi, hfolded⟩ := hmirrors.folded h hp hlost
    have hstory := h.story serial
    rw [hpost] at hstory
    rcases hstory.lost_eq with heq | ⟨-, hunfolded⟩
    · exact hlost.symm.trans heq
    · have hservices := services_reportsOf machine (log.taken.drop i)
      rw [hfolded, hunfolded, submissions, List.map_drop] at hservices
      exact absurd hservices.symm (servicesOf_drop_ne_nil hi)

end

end Vigil.Traffic

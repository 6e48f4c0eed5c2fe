import Vigil.Proofs.Traffic.Commands

/-!
# Closing

Every worker that runs is held by the registry, or is on the registry's list of those that it still
has to stop or to wait for. When the registry has come to the end of that list no worker is left. It
tells the client who asked for the shutdown, and ends without waiting for anything else.

What comes after the acknowledgement comes to nothing. On a single thread, which is where the clock
can be moved by hand, nobody gets a turn between the acknowledgement and the end, and nothing is
taken in any more; nor is it where clients do one thing after the other. Where several threads race
the queues take in what comes in between, but nobody reads it, and no command among it is answered.
-/

namespace Vigil.Traffic

/-- The workers that the registry still has to stop or to wait for. -/
def Phase.leaving : Phase → List Nat
  | .removing serial => [serial]
  | .closing _ rest => rest.map Handle.serial
  | .parting serial _ rest => serial :: rest.map Handle.serial
  | .idle | .delivering _ _ _ | .departing | .ended => []

/-- All workers have ended, and who asked for it has been told. -/
def Phase.IsOver (phase : Phase) : Prop :=
  phase = .departing ∨ phase = .ended

/-- The registry has not lost sight of a worker. -/
def Tied (σ : State) (serial : Nat) : Prop :=
  (∃ machine hd, σ.handles machine = some hd ∧ hd.serial = serial) ∨ serial ∈ σ.phase.leaving

/-- A mark that only tells somebody that there is no answer. -/
def Mark.IsEmptyAnswer (mark : Mark) : Prop :=
  ∃ client, mark = .answered client (.state none)

/-- A mark of what changes nothing after a shutdown: the registry ends, something is put into a
queue that nobody reads, or somebody is told that there is no answer. -/
def Mark.IsVain : Mark → Prop
  | .closed | .submitted _ | .commanded _ | .answered _ (.state none) => True
  | _ => False

/-- The runs in which nobody gets a turn between the acknowledgement of a shutdown and the end of
the registry. So it is on a single thread, since the registry does not wait there, and so it is
wherever clients do one thing after the other and let everything come to rest in between. -/
inductive SingleThreaded (s : Settings) : Log → State → Prop where
  | start (now : Nat) : SingleThreaded s [] (.start now)
  | step {log σ marks σ'} (h : SingleThreaded s log σ) (running : σ.violation = none)
      (step : Step s σ marks σ') (turn : σ.phase = .departing → marks = [.closed]) :
      SingleThreaded s (log ++ marks) σ'

section

variable {s : Settings} {σ σ' : State} {log before after marks : Log} {serial : Nat}
variable {p p' : Post} {client : Nat}

/-! ## Workers that run -/

theorem WorkerStep.running {now : Nat} (h : WorkerStep s now serial p marks p')
    (running : p'.ended = false) : p.ended = false := by
  cases h with
  | report serving | query serving | tick serving => exact serving.running
  | leave => cases running
  | trim pending => exact running

theorem Step.posts_length (h : Step s σ marks σ') :
    σ'.posts.length = σ.posts.length ∨ σ'.posts.length = σ.posts.length + 1 ∧
      ∃ machine, σ'.handles machine = some ⟨machine, σ.posts.length⟩ := by
  cases h with
  | take idle message routed =>
    cases routed_of_route routed with
    | first message unregistered =>
      exact .inr ⟨List.length_append, _, Function.update_self _ _ _⟩
    | delete message registered => exact .inl (List.length_modify _ _ _)
    | report message registered | unknown message unregistered => exact .inl rfl
  | deliver | ask | work => exact .inl List.length_set
  | dismiss => exact .inl (List.length_modify _ _ _)
  | _ => exact .inl rfl

/-- A worker that runs after a step has been running before, or has just been registered. -/
theorem Step.running (h : Step s σ marks σ') (hpost : σ'.posts[serial]? = some p')
    (running : p'.ended = false) :
    (∃ p, σ.posts[serial]? = some p ∧ p.ended = false) ∨
      ∃ machine, σ'.handles machine = some ⟨machine, serial⟩ := by
  have hmove := h.move hpost
  generalize hbefore : σ.posts[serial]? = p? at hmove
  cases hmove with
  | start machine =>
    have hle := List.getElem?_eq_none_iff.1 hbefore
    have hlt := (List.getElem?_eq_some_iff.1 hpost).1
    rcases h.posts_length with hsame | ⟨hmore, machine, hhandle⟩
    · omega
    · have hserial : σ.posts.length = serial := by omega
      rw [hserial] at hhandle
      exact .inr ⟨machine, hhandle⟩
  | work step => exact .inl ⟨_, rfl, step.running running⟩
  | _ => exact .inl ⟨_, rfl, running⟩

theorem Routed.tied {m : Message} (h : Routed s m σ σ' marks) (idle : σ.phase = .idle)
    (tied : Tied σ serial) : Tied σ' serial := by
  rcases tied with ⟨machine, hd, hhandle, hserial⟩ | hleaving
  · cases h with
    | report | unknown => exact .inl ⟨machine, hd, hhandle, hserial⟩
    | @first other services message unregistered =>
      have hne : machine ≠ other := by
        rintro rfl
        rw [unregistered] at hhandle
        cases hhandle
      exact .inl ⟨machine, hd, (Function.update_of_ne hne _ _).trans hhandle, hserial⟩
    | @delete other hd' message registered =>
      by_cases hne : machine = other
      · subst hne
        rw [registered] at hhandle
        cases hhandle
        exact .inr (List.mem_singleton.2 hserial.symm)
      · exact .inl ⟨machine, hd, (Function.update_of_ne hne _ _).trans hhandle, hserial⟩
  · rw [idle] at hleaving
    cases hleaving

/-- The registry loses sight of a worker only when it has ended. -/
theorem Step.tied (h : Step s σ marks σ') (hpost : σ.posts[serial]? = some p)
    (running : p.ended = false) (tied : Tied σ serial) : Tied σ' serial := by
  have hne {number : Nat} {q : Post} (hq : σ.posts[number]? = some q) (ended : q.ended = true) :
      serial ≠ number := by
    rintro rfl
    rw [hpost] at hq
    cases hq
    rw [running] at ended
    cases ended
  cases h with
  | take idle message routed => exact (routed_of_route routed).tied idle tied
  | deliver phase | refuse phase =>
    rcases tied with tied | hleaving
    · exact .inl tied
    · rw [phase] at hleaving
      cases hleaving
  | release phase post ended =>
    rcases tied with tied | hleaving
    · exact .inl tied
    · rw [phase] at hleaving
      exact absurd (List.mem_singleton.1 hleaving) (hne post ended)
  | shutdown idle silent command drained | hangUp idle silent quiet drained =>
    rcases tied with ⟨machine, hd, hhandle, hserial⟩ | hleaving
    · exact .inr (List.mem_map.2 ⟨hd, (drained.mem_iff hd).2 ⟨machine, hhandle⟩, hserial⟩)
    · rw [idle] at hleaving
      cases hleaving
  | dismiss phase known =>
    rcases tied with tied | hleaving
    · exact .inl tied
    · rw [phase] at hleaving
      exact .inr hleaving
  | part phase post ended =>
    rcases tied with tied | hleaving
    · exact .inl tied
    · rw [phase] at hleaving
      exact .inr ((List.mem_cons.1 hleaving).resolve_left (hne post ended))
  | acknowledge phase | finish phase =>
    rcases tied with tied | hleaving
    · exact .inl tied
    · rw [phase] at hleaving
      cases hleaving
  | _ => exact tied

theorem Run.tied (h : Run s log σ) (hpost : σ.posts[serial]? = some p)
    (running : p.ended = false) : Tied σ serial := by
  induction h generalizing p with
  | start => simp [State.start] at hpost
  | step hrun _ step ih =>
    rcases step.running hpost running with ⟨q, hq, hrunning⟩ | ⟨machine, hhandle⟩
    · exact step.tied hq hrunning (ih hq hrunning)
    · exact .inl ⟨machine, _, hhandle, rfl⟩

/-- When the registry has no more to do, all workers have ended. -/
theorem Run.all_ended (h : Run s log σ) (finished : σ.phase.IsOver) :
    ∀ p ∈ σ.posts, p.ended = true := by
  intro p hp
  obtain ⟨serial, hpost⟩ := List.getElem?_of_mem hp
  rcases Bool.eq_false_or_eq_true p.ended with ended | running
  · exact ended
  · have hnone := h.ledger.handles_eq_none
      (by rcases finished with finished | finished <;> rw [finished] <;> rfl)
    rcases h.tied hpost running with ⟨machine, hd, hhandle, -⟩ | hleaving
    · rw [hnone] at hhandle
      cases hhandle
    · rcases finished with finished | finished <;> rw [finished] at hleaving <;> cases hleaving

/-! ## When all is done -/

theorem Step.vain (h : Step s σ marks σ') (finished : σ.phase.IsOver)
    (ended : ∀ p ∈ σ.posts, p.ended = true) :
    σ'.phase.IsOver ∧ ∀ mark ∈ marks, mark.IsVain := by
  have hstopped {number : Nat} {q : Post} (hq : σ.posts[number]? = some q) : q.ended ≠ false := by
    rw [ended q (List.mem_of_getElem? hq)]
    nofun
  have hphase {phase : Phase} (h : σ.phase = phase) : phase.IsOver := h ▸ finished
  cases h with
  | pass | workFails => exact ⟨finished, nofun⟩
  | submit | command => exact ⟨finished, by simp [Mark.IsVain]⟩
  | finish => exact ⟨.inr rfl, by simp [Mark.IsVain]⟩
  | take idle | takeFails idle | snapshot idle | state idle | noState idle | shutdown idle
  | hangUp idle | publish idle => rcases hphase idle with h | h <;> cases h
  | deliver phase | refuse phase | release phase | dismiss phase | part phase | acknowledge phase =>
    rcases hphase phase with h | h <;> cases h
  | ask asking post running => exact absurd running (hstopped post)
  | giveUp asking post => exact ⟨finished, by simp [Mark.IsVain]⟩
  | work post step =>
    cases step with
    | report serving | query serving | tick serving => exact absurd serving.running (hstopped post)
    | leave running => exact absurd running (hstopped post)
    | trim pending => exact ⟨finished, nofun⟩

/-- When the registry has ended nothing is taken in any more. -/
theorem Step.closed (h : Step s σ marks σ') (done : σ.phase = .ended)
    (ended : ∀ p ∈ σ.posts, p.ended = true) :
    σ'.phase = .ended ∧ ∀ mark ∈ marks, mark.IsEmptyAnswer := by
  obtain ⟨-, hvain⟩ := h.vain (.inr done) ended
  cases h with
  | pass | workFails => exact ⟨done, nofun⟩
  | submit m running | command c running => exact absurd done running
  | take idle | takeFails idle | snapshot idle | state idle | noState idle | shutdown idle
  | hangUp idle | publish idle =>
    rw [done] at idle
    cases idle
  | deliver phase | refuse phase | release phase | dismiss phase | part phase | acknowledge phase
  | finish phase =>
    rw [done] at phase
    cases phase
  | ask | giveUp => exact ⟨done, by simp [Mark.IsEmptyAnswer]⟩
  | work post step =>
    refine ⟨done, ?_⟩
    cases step with
    | leave running =>
      rw [ended _ (List.mem_of_getElem? post)] at running
      cases running
    | trim pending => exact nofun
    | report | query | tick => exact absurd (hvain _ List.mem_cons_self) (by simp [Mark.IsVain])

theorem Step.of_answered_stopped (h : Step s σ marks σ')
    (hmark : .answered client .stopped ∈ marks) :
    marks.length = 1 ∧ σ'.phase = .departing := by
  cases h with
  | @acknowledge client? phase => cases client? <;> simp at hmark ⊢
  | take idle message routed => cases routed_of_route routed <;> simp at hmark
  | work post step => cases step <;> simp at hmark
  | _ => simp [State.dismiss] at hmark

theorem Step.of_closed (h : Step s σ marks σ') (hmark : .closed ∈ marks) :
    marks = [.closed] ∧ σ'.phase = .ended := by
  cases h with
  | finish phase => exact ⟨rfl, rfl⟩
  | @acknowledge client? phase => cases client? <;> simp at hmark
  | take idle message routed => cases routed_of_route routed <;> simp at hmark
  | work post step => cases step <;> simp at hmark
  | _ => simp [State.dismiss] at hmark

theorem eq_nil_of_length_eq_one {mark : Mark} (h : marks = before ++ mark :: after)
    (hlength : marks.length = 1) : after = [] := by
  apply List.eq_nil_of_length_eq_zero
  simp [h] at hlength
  omega

theorem Run.vain (h : Run s log σ) (hsplit : log = before ++ .answered client .stopped :: after) :
    σ.phase.IsOver ∧ ∀ mark ∈ after, mark.IsVain := by
  induction h generalizing after with
  | start => simp at hsplit
  | @step log σ marks σ' hrun running step ih =>
    rcases Log.split_append hsplit with ⟨first, -, hmarks⟩ | ⟨rest, hlog, rfl⟩
    · have hmark : .answered client .stopped ∈ marks := by
        rw [hmarks]
        exact List.mem_append_right _ List.mem_cons_self
      obtain ⟨hlength, hover⟩ := step.of_answered_stopped hmark
      rw [eq_nil_of_length_eq_one hmarks hlength]
      exact ⟨.inl hover, nofun⟩
    · obtain ⟨hover, hvain⟩ := ih hlog
      obtain ⟨hover', hvain'⟩ := step.vain hover (hrun.all_ended hover)
      exact ⟨hover', List.forall_mem_append.2 ⟨hvain, hvain'⟩⟩

theorem Run.closed (h : Run s log σ) (hsplit : log = before ++ .closed :: after) :
    σ.phase = .ended ∧ ∀ mark ∈ after, mark.IsEmptyAnswer := by
  induction h generalizing after with
  | start => simp at hsplit
  | @step log σ marks σ' hrun running step ih =>
    rcases Log.split_append hsplit with ⟨first, -, hmarks⟩ | ⟨rest, hlog, rfl⟩
    · have hmark : .closed ∈ marks := by
        rw [hmarks]
        exact List.mem_append_right _ List.mem_cons_self
      obtain ⟨hall, hdone⟩ := step.of_closed hmark
      rw [eq_nil_of_length_eq_one hmarks (by rw [hall]; rfl)]
      exact ⟨hdone, nofun⟩
    · obtain ⟨hdone, hsilent⟩ := ih hlog
      obtain ⟨hdone', hsilent'⟩ := step.closed hdone (hrun.all_ended (.inr hdone))
      exact ⟨hdone', List.forall_mem_append.2 ⟨hsilent, hsilent'⟩⟩

/-- A registry that has ended has left a mark of it. -/
theorem Run.closed_mem (h : Run s log σ) (done : σ.phase = .ended) : .closed ∈ log := by
  induction h with
  | start => cases done
  | @step log σ marks σ' hrun running step ih =>
    rcases Classical.em (σ.phase = .ended) with hbefore | hbefore
    · exact List.mem_append_left _ (ih hbefore)
    · apply List.mem_append_right
      cases step with
      | finish => exact List.mem_cons_self
      | take idle message routed =>
        cases routed_of_route routed with
        | unknown => exact absurd done hbefore
        | _ => cases done
      | deliver | refuse | release | shutdown | hangUp | dismiss | part | acknowledge => cases done
      | _ => exact absurd done hbefore

/-- Who gives a command after a shutdown has been acknowledged is not answered. -/
theorem Run.unanswered (h : Run s log σ)
    (hsplit : log = before ++ .answered client .stopped :: after) {c : Command}
    (hnew : ∀ c', .commanded c' ∈ before → c'.client ≠ c.client) (answer : Answer) :
    .answered c.client answer ∉ after := by
  intro hmem
  obtain ⟨middle, rest, hafter⟩ := List.append_of_mem hmem
  have hlater : log = (before ++ .answered client .stopped :: middle) ++
      .answered c.client answer :: rest := by
    simp [hsplit, hafter]
  obtain ⟨_, c', served, since, -, hclient, hobeyed, -⟩ := h.answer hlater
  have hearly : .obeyed c' ∈ before := by
    have hmem' : .obeyed c' ∈ before ++ .answered client .stopped :: middle := by
      rw [hobeyed]
      exact List.mem_append_right _ List.mem_cons_self
    rcases List.mem_append.1 hmem' with hmem' | hmem'
    · exact hmem'
    · rcases List.mem_cons.1 hmem' with heq | hmem'
      · cases heq
      · have hvain := (h.vain hsplit).2 (.obeyed c')
          (by rw [hafter]; exact List.mem_append_left _ hmem')
        exact hvain.elim
  obtain ⟨first, second, hbefore⟩ := List.append_of_mem hearly
  have hlog : log = first ++ .obeyed c' :: (second ++ .answered client .stopped :: after) := by
    simp [hsplit, hbefore]
  exact hnew c' (by rw [hbefore]; exact List.mem_append_left _ (h.given hlog)) hclient

/-- What is left when a shutdown has been acknowledged after the log `before`. -/
structure FinishedSpec (s : Settings) (σ : State) (before after : Log) : Prop where
  ended : ∀ p ∈ σ.posts, p.ended = true
  /-- Nothing is raised and nothing is published, no message is taken and no command obeyed. -/
  vain : ∀ mark ∈ after, mark.IsVain
  unanswered : ∀ c : Command, (∀ c', .commanded c' ∈ before → c'.client ≠ c.client) →
    ∀ answer, .answered c.client answer ∉ after
  /-- The registry has ended, or does so as its next step. -/
  ends : .closed ∈ after ∨ Step s σ [.closed] { σ with phase := .ended }
  /-- When it has ended no message and no command is taken in. -/
  refuses : ∀ first rest, after = first ++ .closed :: rest → ∀ mark ∈ rest, mark.IsEmptyAnswer
  onward : ∀ marks σ', Step s σ marks σ' →
    (∀ mark ∈ marks, mark.IsVain) ∧ (.closed ∈ after → ∀ mark ∈ marks, mark.IsEmptyAnswer)

theorem Run.finished (h : Run s log σ)
    (hsplit : log = before ++ .answered client .stopped :: after) :
    FinishedSpec s σ before after := by
  obtain ⟨hover, hvain⟩ := h.vain hsplit
  have hended := h.all_ended hover
  have hlater {first rest : Log} (hafter : after = first ++ .closed :: rest) :
      log = (before ++ .answered client .stopped :: first) ++ .closed :: rest := by
    simp [hsplit, hafter]
  refine ⟨hended, hvain, fun c hnew answer => h.unanswered hsplit hnew answer, ?_,
    fun first rest hafter => (h.closed (hlater hafter)).2, fun marks σ' step =>
      ⟨(step.vain hover hended).2, fun hmem => ?_⟩⟩
  · rcases hover with hdeparting | hdone
    · exact .inr (.finish hdeparting)
    · left
      have hmem := h.closed_mem hdone
      rw [hsplit] at hmem
      rcases List.mem_append.1 hmem with hmem | hmem
      · obtain ⟨first, rest, rfl⟩ := List.append_of_mem hmem
        have hclosed : log = first ++ .closed :: (rest ++ .answered client .stopped :: after) := by
          simp [hsplit]
        obtain ⟨_, hempty⟩ := (h.closed hclosed).2 _ (List.mem_append_right _ List.mem_cons_self)
        cases hempty
      · exact (List.mem_cons.1 hmem).resolve_left nofun
  · obtain ⟨first, rest, hafter⟩ := List.append_of_mem hmem
    exact (step.closed (h.closed (hlater hafter)).1 hended).2

/-! ## On a single thread -/

theorem SingleThreaded.run (h : SingleThreaded s log σ) : Run s log σ := by
  induction h with
  | start now => exact .start now
  | step _ running step _ ih => exact ih.step running step

/-- The acknowledgement of a shutdown is followed by the end of the registry. -/
theorem SingleThreaded.closed_next (h : SingleThreaded s log σ)
    (hsplit : log = before ++ .answered client .stopped :: after) :
    after = [] ∧ σ.phase = .departing ∨ ∃ rest, after = .closed :: rest := by
  induction h generalizing after with
  | start => simp at hsplit
  | @step log σ marks σ' hrun running step turn ih =>
    rcases Log.split_append hsplit with ⟨first, -, hmarks⟩ | ⟨rest, hlog, rfl⟩
    · have hmark : .answered client .stopped ∈ marks := by
        rw [hmarks]
        exact List.mem_append_right _ List.mem_cons_self
      obtain ⟨hlength, hdeparting⟩ := step.of_answered_stopped hmark
      exact .inl ⟨eq_nil_of_length_eq_one hmarks hlength, hdeparting⟩
    · rcases ih hlog with ⟨rfl, hdeparting⟩ | ⟨rest', rfl⟩
      · exact .inr ⟨[], turn hdeparting⟩
      · exact .inr ⟨rest' ++ marks, rfl⟩

/-- From the acknowledgement on, nothing is taken in. -/
theorem SingleThreaded.refuses (h : SingleThreaded s log σ)
    (hsplit : log = before ++ .answered client .stopped :: after) :
    ∀ mark ∈ after, mark = .closed ∨ mark.IsEmptyAnswer := by
  rcases h.closed_next hsplit with ⟨rfl, -⟩ | ⟨rest, rfl⟩
  · exact nofun
  · have hempty := (h.run.finished hsplit).refuses [] rest rfl
    rw [List.forall_mem_cons]
    exact ⟨.inl rfl, fun mark hmark => .inr (hempty mark hmark)⟩

end

end Vigil.Traffic

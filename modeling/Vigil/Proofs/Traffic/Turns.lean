import Vigil.Proofs.Registry.Submission
import Vigil.Proofs.Traffic.Ledger

/-!
# Taking turns

The registry that takes turns with its probes, and lets them all rest in between, is one of those
that go their own way: what it does is a run of the traffic, in which the same messages are routed
and the same alerts are raised.
-/

namespace Vigil.Traffic

def Log.alerts (log : Log) : List Alert :=
  log.flatMap fun
    | .folded _ _ _ events | .ticked _ events => events.filterMap Event.alert?
    | _ => []

@[simp] theorem Log.alerts_append (xs ys : Log) : (xs ++ ys).alerts = xs.alerts ++ ys.alerts := by
  simp [Log.alerts]

/-! ## Single workers -/

/-- A worker that has nothing to do but to fold a report, if one is waiting. -/
def Post.holding (now : Nat) (p : Probe) (services? : Option (Roster String)) : Post where
  tended := ⟨p, 0⟩
  mailbox :=
    if p.lost then []
    else (services?.map fun services => Letter.report p.name ⟨now / 1000, services⟩).toList
  stopping := false
  ended := p.lost

/-- Some steps of one worker. -/
inductive Works (s : Settings) (now serial : Nat) : Post → Log → Post → Prop where
  | refl (p) : Works s now serial p [] p
  | step {p marks p' marks' p''} (step : WorkerStep s now serial p marks p')
      (rest : Works s now serial p' marks' p'') : Works s now serial p (marks ++ marks') p''

section Workers

variable {s : Settings} {now serial : Nat} {p q : Probe}

theorem Works.unrouted {post post' : Post} {marks : Log}
    (h : Works s now serial post marks post') : marks.taken = [] := by
  induction h with
  | refl => rfl
  | step step _ ih =>
    rw [Log.taken_append, ih, taken_of_unrouted fun mark hmark => (step.unrouted mark hmark).1]
    rfl

theorem Works.single {post post' : Post} {marks : Log}
    (h : WorkerStep s now serial post marks post') : Works s now serial post marks post' := by
  have hstep := Works.step h (.refl post')
  rwa [List.append_nil] at hstep

theorem Works.trans {post post' post'' : Post} {marks marks' : Log}
    (h : Works s now serial post marks post') (h' : Works s now serial post' marks' post'') :
    Works s now serial post (marks ++ marks') post'' := by
  induction h with
  | refl => exact h'
  | step step _ ih =>
    rw [List.append_assoc]
    exact .step step (ih h')

/-- A worker whose mailbox is empty leaves if its timer cannot be armed. -/
theorem works_leave (s : Settings) (now serial : Nat) (p : Probe) :
    ∃ marks, Works s now serial ⟨⟨p, 0⟩, [], false, false⟩ marks (.holding now p none) ∧
      marks.alerts = [] := by
  cases hlost : p.lost with
  | false =>
    have hpost : Post.holding now p none = ⟨⟨p, 0⟩, [], false, false⟩ := by
      simp [Post.holding, hlost]
    rw [hpost]
    exact ⟨[], .refl _, rfl⟩
  | true =>
    have hpost : Post.holding now p none = (⟨⟨p, 0⟩, [], false, false⟩ : Post).leave := by
      simp [Post.holding, Post.leave, hlost]
    rw [hpost]
    exact ⟨_, .single (.leave rfl (.inr hlost)), rfl⟩

/-- A worker that is told to stop leaves, if it has not left before. -/
theorem works_stop (s : Settings) (now serial : Nat) (p : Probe)
    (services? : Option (Roster String)) :
    ∃ marks post, Works s now serial (Post.holding now p services?).tellToStop marks post ∧
      post.ended = true ∧ marks.alerts = [] := by
  cases hlost : p.lost with
  | false => exact ⟨_, _, .single (.leave hlost (.inl rfl)), rfl, by simp [Log.alerts]⟩
  | true => exact ⟨[], _, .refl _, hlost, rfl⟩

theorem works_trim (s : Settings) (now serial : Nat) {t : Probe.Tended}
    (h : t = ⟨q, 0⟩ ∨ t.trims = 1 ∧ t.trim = ⟨q, 0⟩) :
    Works s now serial ⟨t, [], false, false⟩ [] ⟨⟨q, 0⟩, [], false, false⟩ := by
  rcases h with rfl | ⟨hasked, htrim⟩
  · exact .refl _
  · have hstep : WorkerStep s now serial ⟨t, [], false, false⟩ []
        ⟨t.trim, [], false, false⟩ := .trim (by simp [hasked])
    rw [htrim] at hstep
    exact .single hstep

/-- A worker folds the report in its mailbox, trims its history and rests. -/
theorem works_report (s : Settings) (now serial : Nat) (alive : p.lost = false)
    (services : Roster String) :
    ∃ marks, Works s now serial (.holding now p (some services)) marks
        (.holding now (p.report s now (now / 1000) services).1 none) ∧
      marks.alerts = (p.report s now (now / 1000) services).2.filterMap Event.alert? := by
  let r : Report := ⟨now / 1000, services⟩
  let post : Post := ⟨⟨p, 0⟩, [.report p.name r], false, false⟩
  have hpost : Post.holding now p (some services) = post := by
    simp [Post.holding, alive, post, r]
  have hfold : Works s now serial post
      [.folded serial now r (p.report s now (now / 1000) services).2] (post.fold s now r).1 :=
    .single (.report ⟨rfl, rfl, alive⟩ rfl rfl)
  have htrim := works_trim s now serial (Probe.Tended.serve_report s now r p)
  obtain ⟨marks, hleave, halerts⟩ :=
    works_leave s now serial (p.report s now (now / 1000) services).1
  rw [hpost]
  refine ⟨_, (hfold.trans htrim).trans hleave, ?_⟩
  rw [Log.alerts_append, halerts]
  simp [Log.alerts]

/-- A worker ticks until its timer is not due any more, and rests. -/
theorem works_advance (s : Settings) (u serial : Nat) (p : Probe) :
    ∃ marks, Works s u serial (.holding u p none) marks (.holding u (p.advance s u).1 none) ∧
      marks.alerts = (p.advance s u).2.filterMap fun e => e.value.alert? := by
  refine Probe.advance_induction
    (P := fun p q events => ∃ marks,
      Works s u serial (.holding u p none) marks (.holding u q none) ∧
        marks.alerts = events.filterMap fun e => e.value.alert?)
    (fun _ _ => ⟨[], .refl _, rfl⟩) (fun _ _ => ⟨[], .refl _, rfl⟩) ?_ p
  rintro p n alive hn ⟨marks', hrest, halerts'⟩
  let post : Post := ⟨⟨p, 0⟩, [], false, false⟩
  have hpost : Post.holding u p none = post := by
    simp [Post.holding, alive, post]
  have htick : Works s u serial post [.ticked serial (p.tick s).2]
      ⟨⟨(p.tick s).1, 0⟩, [], false, false⟩ :=
    .single (.tick ⟨rfl, rfl, alive⟩ rfl (Nat.le_refl p.deadline)
      (Probe.deadline_le_of_firings hn))
  obtain ⟨marks, hleave, halerts⟩ := works_leave s u serial (p.tick s).1
  rw [hpost]
  refine ⟨_, (htick.trans hleave).trans hrest, ?_⟩
  rw [Log.alerts_append, Log.alerts_append, halerts, halerts', List.filterMap_append]
  simp [Log.alerts, Probe.tickEvents, List.filterMap_map]

end Workers

/-! ## All workers -/

/-- The registry holds workers for some machines, each of which has nothing to do but to fold the
report that is waiting for it, if one is. -/
structure Mirrors (now : Nat) (names : List String) (probe? : String → Option Probe)
    (waiting : String → Option (Roster String)) (phase : Phase) (σ : State) : Prop where
  now_eq : σ.now = now
  order_eq : σ.order = names
  phase_eq : σ.phase = phase
  silent : σ.ingress = []
  sound : σ.violation = none
  unheld : ∀ machine, probe? machine = none → σ.handles machine = none ∧ waiting machine = none
  held : ∀ machine p, probe? machine = some p → p.name = machine ∧ ∃ serial,
    σ.handles machine = some ⟨machine, serial⟩ ∧
      σ.posts[serial]? = some (.holding now p (waiting machine))

/-- Some run of the traffic has led to such a state. -/
def Reached (s : Settings) (now : Nat) (names : List String) (probe? : String → Option Probe)
    (waiting : String → Option (Roster String)) (phase : Phase) (xs : List Submission)
    (alerts : List Alert) : Prop :=
  ∃ log σ, Run s log σ ∧ Mirrors now names probe? waiting phase σ ∧
    submissions log.taken = xs ∧ log.alerts = alerts

section Registries

variable {s : Settings} {now : Nat} {names : List String} {probe? : String → Option Probe}
variable {waiting : String → Option (Roster String)} {phase : Phase} {xs : List Submission}
variable {alerts : List Alert} {σ : State} {machine : String} {p q : Probe}

/-- Different machines have different workers. -/
theorem Mirrors.serial_ne {serial : Nat} {services? : Option (Roster String)}
    (h : Mirrors now names probe? waiting phase σ) (hp : probe? machine = some p)
    (hpost : σ.posts[serial]? = some (.holding now p services?)) (other : String) (q : Probe)
    (serial' : Nat) (services?' : Option (Roster String)) (hq : probe? other = some q)
    (hpost' : σ.posts[serial']? = some (.holding now q services?')) (hne : other ≠ machine) :
    serial' ≠ serial := by
  rintro rfl
  rw [hpost] at hpost'
  have hsame : p = q := congrArg (fun post => post.tended.probe) (Option.some.inj hpost')
  have hname := (h.held machine p hp).1
  have hname' := (h.held other q hq).1
  exact hne (hname'.symm.trans (hsame ▸ hname))

theorem Mirrors.exists_probe (h : Mirrors now names probe? waiting phase σ) (machine : String)
    (hmachine : σ.handles machine ≠ none ∨ waiting machine ≠ none) :
    ∃ p, probe? machine = some p := by
  apply Option.ne_none_iff_exists'.1
  intro hnone
  obtain ⟨hhandle, hwaiting⟩ := h.unheld machine hnone
  exact hmachine.elim (absurd hhandle) (absurd hwaiting)

theorem withPost_self {serial : Nat} {post : Post} (h : σ.posts[serial]? = some post) :
    σ.withPost serial post = σ := by
  obtain ⟨hlt, hget⟩ := List.getElem?_eq_some_iff.1 h
  rw [State.withPost, ← hget, List.set_getElem_self]

theorem withPost_withPost (serial : Nat) (post post' : Post) (σ : State) :
    (σ.withPost serial post).withPost serial post' = σ.withPost serial post' := by
  simp [State.withPost]

/-- Steps of one worker are steps of the traffic. -/
theorem Works.run {serial : Nat} {post post' : Post} {log marks : Log}
    (h : Works s now serial post marks post') (hrun : Run s log σ) (hnow : σ.now = now)
    (sound : σ.violation = none) (hpost : σ.posts[serial]? = some post) :
    Run s (log ++ marks) (σ.withPost serial post') := by
  induction h generalizing log σ with
  | refl =>
    rw [List.append_nil, withPost_self hpost]
    exact hrun
  | @step post marks post' marks' post'' step rest ih =>
    rw [← hnow] at step
    have hnext := hrun.step sound (.work hpost step)
    have hget : (σ.withPost serial post').posts[serial]? = some post' := by
      rw [posts_withPost hpost, if_pos rfl]
    have hrest := ih hnext hnow sound hget
    rwa [withPost_withPost, List.append_assoc] at hrest

/-- The worker of one machine changes, and the others do not. -/
theorem Mirrors.withPost {serial : Nat} (h : Mirrors now names probe? waiting phase σ)
    (hp : probe? machine = some p) (hhandle : σ.handles machine = some ⟨machine, serial⟩)
    (hpost : σ.posts[serial]? = some (.holding now p (waiting machine))) (hname : q.name = p.name)
    (services? : Option (Roster String)) :
    Mirrors now names (Function.update probe? machine (some q))
      (Function.update waiting machine services?) phase
      (σ.withPost serial (.holding now q services?)) := by
  have hapart := h.serial_ne hp hpost
  obtain ⟨hnow, horder, hphase, hsilent, hsound, hunheld, hheld⟩ := h
  obtain ⟨hmachine, -⟩ := hheld machine p hp
  refine ⟨hnow, horder, hphase, hsilent, hsound, ?_, ?_⟩
  · intro other hother
    by_cases hne : other = machine
    · subst hne
      rw [Function.update_self] at hother
      cases hother
    · rw [Function.update_of_ne hne] at hother ⊢
      exact hunheld other hother
  · intro other p' hother
    by_cases hne : other = machine
    · subst hne
      rw [Function.update_self] at hother ⊢
      cases hother
      refine ⟨hname.trans hmachine, serial, hhandle, ?_⟩
      rw [posts_withPost hpost, if_pos rfl]
    · rw [Function.update_of_ne hne] at hother ⊢
      obtain ⟨hname', serial', hhandle', hpost'⟩ := hheld other p' hother
      refine ⟨hname', serial', hhandle', ?_⟩
      rw [posts_withPost hpost, if_neg (hapart other p' serial' _ hother hpost' hne)]
      exact hpost'

theorem Mirrors.withPhase (h : Mirrors now names probe? waiting phase σ) (phase' : Phase) :
    Mirrors now names probe? waiting phase' { σ with phase := phase' } := by
  obtain ⟨hnow, horder, -, hsilent, hsound, hunheld, hheld⟩ := h
  exact ⟨hnow, horder, rfl, hsilent, hsound, hunheld, hheld⟩

/-- The worker of one machine does some work, and the others do nothing. -/
theorem Reached.works (h : Reached s now names probe? waiting phase xs alerts)
    (hp : probe? machine = some p) (hname : q.name = p.name) {raised : List Alert}
    (hworks : ∀ serial, ∃ marks,
      Works s now serial (.holding now p (waiting machine)) marks (.holding now q none) ∧
        marks.alerts = raised) :
    Reached s now names (Function.update probe? machine (some q))
      (Function.update waiting machine none) phase xs (alerts ++ raised) := by
  obtain ⟨log, σ, hrun, hmirrors, rfl, rfl⟩ := h
  obtain ⟨hmachine, serial, hhandle, hpost⟩ := hmirrors.held machine p hp
  obtain ⟨marks, hwork, rfl⟩ := hworks serial
  have hrun' := hwork.run hrun hmirrors.now_eq hmirrors.sound hpost
  refine ⟨_, _, hrun', hmirrors.withPost hp hhandle hpost hname none, ?_, ?_⟩
  · rw [Log.taken_append, hwork.unrouted, List.append_nil]
  · rw [Log.alerts_append]

/-- A report that is waiting is folded, unless the probe is lost. -/
theorem Reached.receive (h : Reached s now names probe? waiting phase xs alerts)
    (hp : probe? machine = some p) {services : Roster String}
    (hwaiting : waiting machine = some services) :
    Reached s now names
      (Function.update probe? machine (some (p.receive s now services).1))
      (Function.update waiting machine none) phase xs
      (alerts ++ (p.receive s now services).2.filterMap Event.alert?) := by
  unfold Probe.receive
  cases hlost : p.lost with
  | true =>
    apply h.works hp
    · rfl
    intro serial
    have hholding : Post.holding now p (waiting machine) = Post.holding now p none := by
      simp [Post.holding, hlost]
    rw [hholding]
    exact ⟨[], .refl _, rfl⟩
  | false =>
    apply h.works hp
    · rfl
    · intro serial
      rw [hwaiting]
      exact works_report s now serial hlost services

/-- The time comes when the timer of a worker is due. -/
theorem Reached.advance (h : Reached s now names probe? waiting phase xs alerts)
    (hp : probe? machine = some p) (hwaiting : waiting machine = none) :
    Reached s now names (Function.update probe? machine (some (p.advance s now).1))
      (Function.update waiting machine none) phase xs
      (alerts ++ (p.advance s now).2.filterMap fun e => e.value.alert?) := by
  apply h.works hp
  · exact Probe.name_advance p
  · intro serial
    rw [hwaiting]
    exact works_advance s now serial p

/-! ## The registry -/

theorem ingress_eta (h : σ.ingress = []) : { σ with ingress := [] } = σ := by
  rw [← h]

theorem Routed.alerts_eq {σ' : State} {m : Message} {marks : Log}
    (h : Routed s m σ σ' marks) : marks.alerts = [] := by
  cases h <;> rfl

/-- A message that is submitted while nothing else is on its way is routed at once. -/
theorem run_take {log : Log} (hrun : Run s log σ) (sound : σ.violation = none)
    (silent : σ.ingress = []) (idle : σ.phase = .idle) (m : Message) :
    ∃ log' σ' marks, Run s log' σ' ∧ Routed s m σ σ' marks ∧ log'.taken = log.taken ++ [m] ∧
      log'.alerts = log.alerts := by
  have hsubmit := hrun.step sound
    (.submit m (by simp [idle]) (by rw [silent]; exact Nat.succ_pos _))
  obtain ⟨σ', marks, hroute, hrouted⟩ := exists_routed s m σ
  have hsame : { σ with ingress := [] } = σ := ingress_eta silent
  rw [← hsame] at hroute
  have htake := hsubmit.step sound (.take idle (by rw [silent]; rfl) hroute)
  refine ⟨_, σ', marks, htake, hrouted, ?_, ?_⟩
  · have htaken : Log.taken (.taken m :: marks) = [m] := congrArg (m :: ·) hrouted.queue.2.1
    have hsubmitted : Log.taken [.submitted m] = [] := rfl
    rw [Log.taken_append, Log.taken_append, htaken, hsubmitted, List.append_nil]
  · have halerts : Log.alerts (.taken m :: marks) = [] := hrouted.alerts_eq
    have hsubmitted : Log.alerts [.submitted m] = [] := rfl
    rw [Log.alerts_append, Log.alerts_append, halerts, hsubmitted, List.append_nil, List.append_nil]

/-- A machine gets a new worker, and the others do nothing. -/
theorem Mirrors.register (s : Settings) (h : Mirrors now names probe? waiting phase σ)
    (hp : probe? machine = none) (phase' : Phase) :
    Mirrors now (names ++ [machine])
      (Function.update probe? machine (some (.start s machine now .empty))) waiting phase'
      { σ with
        handles := Function.update σ.handles machine (some ⟨machine, σ.posts.length⟩)
        order := σ.order ++ [machine]
        posts := σ.posts ++ [.start s machine σ.now]
        phase := phase' } := by
  obtain ⟨hnow, horder, -, hsilent, hsound, hunheld, hheld⟩ := h
  refine ⟨hnow, ?_, rfl, hsilent, hsound, ?_, ?_⟩
  · dsimp only
    rw [horder]
  · intro other hother
    by_cases hne : other = machine
    · subst hne
      simp at hother
    · rw [Function.update_of_ne hne] at hother
      dsimp only
      rw [Function.update_of_ne hne]
      exact hunheld other hother
  · intro other p hother
    by_cases hne : other = machine
    · subst hne
      rw [Function.update_self] at hother
      cases hother
      refine ⟨rfl, σ.posts.length, Function.update_self _ _ _, ?_⟩
      rw [(hunheld other hp).2, hnow]
      simp
      rfl
    · rw [Function.update_of_ne hne] at hother
      obtain ⟨hname, serial, hhandle, hpost⟩ := hheld other p hother
      refine ⟨hname, serial, ?_, ?_⟩
      · dsimp only
        rw [Function.update_of_ne hne]
        exact hhandle
      · dsimp only
        rw [List.getElem?_append_left (List.getElem?_eq_some_iff.1 hpost).1]
        exact hpost

/-- A report is routed to the worker of its machine, which is started if there is none. -/
theorem Reached.report (h : Reached s now names probe? waiting .idle xs alerts)
    (machine : String) (services : Roster String) (timestamp : Int) :
    ∃ serial, Reached s now (if (probe? machine).isSome then names else names ++ [machine])
      (Function.update probe? machine
        (some ((probe? machine).getD (.start s machine now .empty))))
      waiting (.delivering serial machine ⟨timestamp, services⟩)
      (xs ++ [.report machine services]) alerts := by
  obtain ⟨log, σ, hrun, hmirrors, rfl, rfl⟩ := h
  obtain ⟨log', σ', marks, hrun', hrouted, htaken, halerts⟩ :=
    run_take hrun hmirrors.sound hmirrors.silent hmirrors.phase_eq
      ⟨timestamp, .report machine services⟩
  have hxs : submissions log'.taken = submissions log.taken ++ [.report machine services] := by
    rw [htaken]
    exact submissions_append _ _
  cases hrouted with
  | @report _ _ hd message registered =>
    cases message
    obtain ⟨p, hp⟩ := hmirrors.exists_probe machine (.inl (by simp [registered]))
    have hsame : Function.update probe? machine (some p) = probe? := by
      rw [← hp, Function.update_eq_self]
    rw [hp, Option.getD_some, hsame]
    exact ⟨hd.serial, log', _, hrun', hmirrors.withPhase _, hxs, halerts⟩
  | first message unregistered =>
    cases message
    have hp : probe? machine = none := by
      apply Option.eq_none_iff_forall_ne_some.2
      intro p hp
      obtain ⟨-, serial, hhandle, -⟩ := hmirrors.held machine p hp
      rw [unregistered] at hhandle
      cases hhandle
    rw [hp, Option.getD_none]
    exact ⟨σ.posts.length, log', _, hrun', hmirrors.register s hp _, hxs, halerts⟩
  | delete message registered => cases message
  | unknown message unregistered => cases message

theorem Run.reached {log marks : Log} {σ' : State} (hrun : Run s log σ) (sound : σ.violation = none)
    (step : Step s σ marks σ') (htaken : marks.taken = []) (halerts : marks.alerts = [])
    (h : Mirrors now names probe? waiting phase σ') :
    Reached s now names probe? waiting phase (submissions log.taken) log.alerts := by
  refine ⟨_, σ', hrun.step sound step, h, ?_, ?_⟩
  · rw [Log.taken_append, htaken, List.append_nil]
  · rw [Log.alerts_append, halerts, List.append_nil]

/-- The report is put into the mailbox, unless the worker has ended. -/
theorem Reached.deliver {serial : Nat} {services : Roster String}
    (h : Reached s now names probe? waiting
      (.delivering serial machine ⟨now / 1000, services⟩) xs alerts)
    (hwaiting : waiting machine = none) :
    Reached s now names probe? (Function.update waiting machine (some services)) .idle xs
      alerts := by
  obtain ⟨log, σ, hrun, hmirrors, rfl, rfl⟩ := h
  have htarget := hrun.ledger.target _ _ _ hmirrors.phase_eq
  obtain ⟨p, hp⟩ := hmirrors.exists_probe machine (.inl (by simp [htarget]))
  obtain ⟨hname, serial', hhandle, hpost⟩ := hmirrors.held machine p hp
  rw [hhandle] at htarget
  cases htarget
  have hnext := (hmirrors.withPost hp hhandle hpost rfl (some services)).withPhase .idle
  rw [← hp, Function.update_eq_self] at hnext
  rw [hwaiting] at hpost
  cases hlost : p.lost with
  | true =>
    have hsame : Post.holding now p (some services) = Post.holding now p none := by
      simp [Post.holding, hlost]
    rw [hsame, withPost_self hpost] at hnext
    exact hrun.reached hmirrors.sound (.refuse hmirrors.phase_eq hpost hlost) rfl rfl hnext
  | false =>
    have hput : (Post.holding now p none).put (.report machine ⟨now / 1000, services⟩) =
        Post.holding now p (some services) := by
      simp [Post.holding, Post.put, hlost, hname]
    rw [← hput] at hnext
    have hroom : (Post.holding now p none).isFull = false := by
      simp [Post.holding, Post.isFull, hlost, mailboxCapacity]
    exact hrun.reached hmirrors.sound (.deliver hmirrors.phase_eq hpost hlost hroom) rfl rfl hnext

/-- The worker of one machine is gone, and the others do nothing. -/
theorem Mirrors.strike {serial : Nat} {posts : List Post}
    (h : Mirrors now names probe? waiting phase σ) (hp : probe? machine = some p)
    (hpost : σ.posts[serial]? = some (.holding now p (waiting machine)))
    (hposts : ∀ other, other ≠ serial → posts[other]? = σ.posts[other]?) :
    Mirrors now (names.filter (· ≠ machine)) (Function.update probe? machine none)
      (Function.update waiting machine none) .idle
      { σ with
        handles := Function.update σ.handles machine none
        order := σ.order.filter (· ≠ machine)
        posts := posts
        phase := .idle } := by
  have hapart := h.serial_ne hp hpost
  obtain ⟨hnow, horder, -, hsilent, hsound, hunheld, hheld⟩ := h
  refine ⟨hnow, ?_, rfl, hsilent, hsound, ?_, ?_⟩
  · dsimp only
    rw [horder]
  · intro other hother
    by_cases hne : other = machine
    · subst hne
      exact ⟨Function.update_self _ _ _, Function.update_self _ _ _⟩
    · dsimp only
      rw [Function.update_of_ne hne] at hother ⊢
      rw [Function.update_of_ne hne]
      exact hunheld other hother
  · intro other p' hother
    have hne : other ≠ machine := by
      rintro rfl
      rw [Function.update_self] at hother
      cases hother
    rw [Function.update_of_ne hne] at hother ⊢
    obtain ⟨hname', serial', hhandle', hpost'⟩ := hheld other p' hother
    refine ⟨hname', serial', ?_, ?_⟩
    · dsimp only
      rw [Function.update_of_ne hne]
      exact hhandle'
    · dsimp only
      rw [hposts serial' (hapart other p' serial' _ hother hpost' hne)]
      exact hpost'

/-- The worker of a deleted machine is told to stop, and the registry waits for it to end. -/
theorem Reached.delete (h : Reached s now names probe? waiting .idle xs alerts)
    (hp : probe? machine = some p) :
    Reached s now (names.filter (· ≠ machine)) (Function.update probe? machine none)
      (Function.update waiting machine none) .idle (xs ++ [.delete machine]) alerts := by
  obtain ⟨log, σ, hrun, hmirrors, rfl, rfl⟩ := h
  obtain ⟨-, serial, hhandle, hpost⟩ := hmirrors.held machine p hp
  obtain ⟨log', σ', marks, hrun', hrouted, htaken, halerts⟩ :=
    run_take hrun hmirrors.sound hmirrors.silent hmirrors.phase_eq ⟨0, .delete machine⟩
  cases hrouted with
  | report message registered | first message unregistered => cases message
  | unknown message unregistered =>
    cases message
    rw [unregistered] at hhandle
    cases hhandle
  | @delete _ hd message registered =>
    cases message
    rw [hhandle] at registered
    cases registered
    obtain ⟨left, post, hworks, hended, hquiet⟩ :=
      works_stop s now serial p (waiting machine)
    have htold : (σ.posts.modify serial Post.tellToStop)[serial]? =
        some (Post.holding now p (waiting machine)).tellToStop := by
      rw [List.getElem?_modify, hpost]
      simp
    have hleft := hworks.run hrun' hmirrors.now_eq hmirrors.sound htold
    have hreleased := hleft.step hmirrors.sound
      (.release rfl (by rw [posts_withPost htold, if_pos rfl]) hended)
    refine ⟨_, _, hreleased, hmirrors.strike hp hpost ?_, ?_, ?_⟩
    · intro other hother
      rw [posts_withPost htold, if_neg hother, List.getElem?_modify]
      simp [Ne.symm hother]
    · rw [List.append_nil, Log.taken_append, hworks.unrouted, List.append_nil, htaken]
      exact submissions_append _ _
    · rw [List.append_nil, Log.alerts_append, hquiet, List.append_nil, halerts]

/-- The deletion of a machine that is not registered is ignored. -/
theorem Reached.unknown (h : Reached s now names probe? waiting .idle xs alerts)
    (hp : probe? machine = none) :
    Reached s now names probe? waiting .idle (xs ++ [.delete machine]) alerts := by
  obtain ⟨log, σ, hrun, hmirrors, rfl, rfl⟩ := h
  obtain ⟨log', σ', marks, hrun', hrouted, htaken, halerts⟩ :=
    run_take hrun hmirrors.sound hmirrors.silent hmirrors.phase_eq ⟨0, .delete machine⟩
  cases hrouted with
  | report message registered | first message unregistered => cases message
  | delete message registered =>
    cases message
    rw [(hmirrors.unheld machine hp).1] at registered
    cases registered
  | unknown message unregistered =>
    refine ⟨log', σ, hrun', hmirrors, ?_, halerts⟩
    rw [htaken]
    exact submissions_append _ _

/-- Time passes while nothing is waiting. -/
theorem Reached.pass (h : Reached s now names probe? (fun _ => none) phase xs alerts) {u : Nat}
    (hle : now ≤ u) : Reached s u names probe? (fun _ => none) phase xs alerts := by
  obtain ⟨log, σ, hrun, hmirrors, rfl, rfl⟩ := h
  obtain ⟨hnow, horder, hphase, hsilent, hsound, hunheld, hheld⟩ := hmirrors
  apply hrun.reached hsound (.pass (u - now)) rfl rfl
  refine ⟨?_, horder, hphase, hsilent, hsound, hunheld, hheld⟩
  dsimp only
  omega

end Registries

end Vigil.Traffic

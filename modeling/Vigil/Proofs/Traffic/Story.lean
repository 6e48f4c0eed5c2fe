import Vigil.Proofs.Traffic.Basic

/-!
# The story of a worker

What happens to a single worker in the traffic: reports are delivered into its mailbox, it folds
them into its history, and when it ends it leaves unread what lies in its mailbox.
-/

namespace Vigil.Traffic

/-- The number of the worker that a mark is about. -/
def Mark.serial? : Mark → Option Nat
  | .registered _ serial | .delivered serial _ | .refused serial _ | .stopped serial
  | .folded serial _ _ _ | .ticked serial _ | .ended serial _ => some serial
  | .submitted _ | .commanded _ | .taken _ | .obeyed _ | .answered _ _ | .published _
  | .closed => none

def Mark.delivered? : Mark → Option Report
  | .delivered _ r => some r
  | _ => none

/-- The report that becomes part of a history. -/
def Mark.folded? : Mark → Option Report
  | .folded _ _ r _ => some r
  | _ => none

namespace Log

/-- What has happened to one worker. -/
def about (serial : Nat) (log : Log) : Log :=
  log.filter (·.serial? = some serial)

def submitted (log : Log) : List Message :=
  log.filterMap fun | .submitted m => some m | _ => none

/-- The messages that the registry has taken out of the ingress. -/
def taken (log : Log) : List Message :=
  log.filterMap fun | .taken m => some m | _ => none

def delivered (log : Log) : List Report :=
  log.filterMap Mark.delivered?

def refused (log : Log) : List Report :=
  log.filterMap fun | .refused _ r => some r | _ => none

def folded (log : Log) : List Report :=
  log.filterMap Mark.folded?

/-- The reports that were left in a mailbox at the end. -/
def unread (log : Log) : List Report :=
  log.flatMap fun | .ended _ letters => reportsIn letters | _ => []

variable (xs ys : Log)

@[simp] theorem about_append (serial : Nat) :
    about serial (xs ++ ys) = about serial xs ++ about serial ys := by
  simp [about]

@[simp] theorem submitted_append : submitted (xs ++ ys) = submitted xs ++ submitted ys := by
  simp [submitted]

@[simp] theorem taken_append : taken (xs ++ ys) = taken xs ++ taken ys := by
  simp [taken]

@[simp] theorem delivered_append : delivered (xs ++ ys) = delivered xs ++ delivered ys := by
  simp [delivered]

@[simp] theorem refused_append : refused (xs ++ ys) = refused xs ++ refused ys := by
  simp [refused]

@[simp] theorem folded_append : folded (xs ++ ys) = folded xs ++ folded ys := by
  simp [folded]

@[simp] theorem unread_append : unread (xs ++ ys) = unread xs ++ unread ys := by
  simp [unread]

theorem about_of_serial?_eq_none {log : Log} (h : ∀ mark ∈ log, mark.serial? = none)
    (serial : Nat) : about serial log = [] := by
  apply List.filter_eq_nil_iff.2
  intro mark hmark
  simp [h mark hmark]

variable {xs ys}

/-- A mark of a log in two parts is in the second or in the first of them. -/
theorem split_append {before after : Log} {mark : Mark} (h : xs ++ ys = before ++ mark :: after) :
    (∃ first, before = xs ++ first ∧ ys = first ++ mark :: after) ∨
      ∃ rest, xs = before ++ mark :: rest ∧ after = rest ++ ys := by
  rcases List.append_eq_append_iff.1 h with ⟨first, hbefore, hys⟩ | ⟨rest, hxs, hrest⟩
  · exact .inl ⟨first, hbefore, hys⟩
  · rcases rest with _ | ⟨other, rest⟩
    · exact .inl ⟨[], by simp [hxs], hrest.symm⟩
    · cases hrest
      exact .inr ⟨rest, hxs, rfl⟩

end Log

/-! ## One step -/

/-- What a step does to the worker number `serial`, with what happens to this worker in it. -/
inductive Change (s : Settings) (serial : Nat) : Option Post → Log → Option Post → Prop where
  | rest (p?) : Change s serial p? [] p?
  | start (machine : String) (now : Nat) :
      Change s serial none [.registered machine serial] (some (.start s machine now))
  | deliver {p} (machine : String) (r : Report) (running : p.ended = false)
      (room : p.isFull = false) :
      Change s serial (some p) [.delivered serial r] (some (p.put (.report machine r)))
  | refuse {p} (r : Report) (ended : p.ended = true) :
      Change s serial (some p) [.refused serial r] (some p)
  | ask {p} (client : Nat) (running : p.ended = false) (room : p.isFull = false) :
      Change s serial (some p) [] (some (p.put (.query client)))
  | tell (p) : Change s serial (some p) [.stopped serial] (some p.tellToStop)
  | fold {p machine r rest} (now : Nat) (serving : p.Serving)
      (letter : p.mailbox = .report machine r :: rest) :
      Change s serial (some p) [.folded serial now r (p.fold s now r).2] (some (p.fold s now r).1)
  | answer {p client rest} (letter : p.mailbox = .query client :: rest) :
      Change s serial (some p) [] (some { p with mailbox := rest })
  | tick {p} (instant : Nat) (serving : p.Serving) :
      Change s serial (some p) [.ticked serial (p.tick s instant).2] (some (p.tick s instant).1)
  | leave {p} (running : p.ended = false)
      (reason : p.stopping = true ∨ p.tended.probe.lost = true) :
      Change s serial (some p) [.ended serial p.mailbox] (some p.leave)
  | trim (p) : Change s serial (some p) [] (some { p with tended := p.tended.trim })

section Steps

variable {s : Settings} {σ σ' : State} {marks : Log} {serial other : Nat} {p p' : Post}

theorem WorkerStep.about_of_ne {now : Nat} (h : WorkerStep s now serial p marks p')
    (hne : serial ≠ other) : Log.about other marks = [] := by
  cases h with
  | leave running reason =>
    apply List.filter_eq_nil_iff.2
    intro mark hmark
    rcases List.mem_cons.1 hmark with rfl | hmark
    · simp [Mark.serial?, hne]
    · obtain ⟨c, -, rfl⟩ := List.mem_map.1 hmark
      simp [Mark.serial?]
  | report | query | tick | trim => simp [Log.about, Mark.serial?, hne]

theorem WorkerStep.change {now : Nat} (h : WorkerStep s now serial p marks p') :
    Change s serial (some p) (Log.about serial marks) (some p') := by
  cases h with
  | report serving letter own =>
    simpa [Log.about, Mark.serial?] using Change.fold now serving letter
  | query serving letter => simpa [Log.about, Mark.serial?] using Change.answer letter
  | tick serving empty due past =>
    simpa [Log.about, Mark.serial?] using Change.tick _ serving
  | leave running reason =>
    have hanswers : ((askers p.mailbox).map fun c => Mark.answered c (.state none)).filter
        (·.serial? = some serial) = [] := by
      apply List.filter_eq_nil_iff.2
      intro mark hmark
      obtain ⟨c, -, rfl⟩ := List.mem_map.1 hmark
      simp [Mark.serial?]
    rw [Log.about, List.filter_cons, hanswers]
    simpa [Mark.serial?] using Change.leave running reason
  | trim pending => exact .trim p

theorem posts_withPost (h : σ.posts[serial]? = some p) (other : Nat) :
    (σ.withPost serial p').posts[other]? = if other = serial then some p' else σ.posts[other]? := by
  have hlt := (List.getElem?_eq_some_iff.1 h).1
  rw [State.withPost, List.getElem?_set]
  by_cases hother : other = serial
  · subst hother
    simp [hlt]
  · rw [if_neg hother, if_neg (Ne.symm hother)]

theorem Change.tellTo (s : Settings) (posts : List Post) (serial : Nat) {told : Nat}
    (h : told < posts.length) :
    Change s serial posts[serial]? (Log.about serial [.stopped told])
      (posts.modify told Post.tellToStop)[serial]? := by
  rw [List.getElem?_modify]
  by_cases htold : told = serial
  · subst htold
    rw [List.getElem?_eq_getElem h]
    simpa [Log.about, Mark.serial?] using Change.tell posts[told]
  · simpa [Log.about, Mark.serial?, htold] using Change.rest posts[serial]?

/-- A step that changes one worker leaves the others at rest. -/
theorem Change.withPost (h : σ.posts[serial]? = some p)
    (hothers : ∀ other, serial ≠ other → Log.about other marks = [])
    (change : Change s serial (some p) (Log.about serial marks) (some p')) (other : Nat) :
    Change s other σ.posts[other]? (Log.about other marks)
      (σ.withPost serial p').posts[other]? := by
  rw [posts_withPost h]
  by_cases hother : other = serial
  · subst hother
    rw [if_pos rfl, h]
    exact change
  · rw [if_neg hother, hothers other (Ne.symm hother)]
    exact .rest _

/-- What the registry makes of a message. -/
inductive Routed (s : Settings) (m : Message) (σ : State) : State → Log → Prop where
  | report {machine services h} (message : m.submission = .report machine services)
      (registered : σ.handles machine = some h) :
      Routed s m σ
        { σ with phase := .delivering h.serial machine ⟨m.timestamp, services⟩ } []
  | first {machine services} (message : m.submission = .report machine services)
      (unregistered : σ.handles machine = none) :
      Routed s m σ
        { σ with
          handles := Function.update σ.handles machine (some ⟨machine, σ.posts.length⟩)
          order := σ.order ++ [machine]
          posts := σ.posts ++ [.start s machine σ.now]
          phase := .delivering σ.posts.length machine ⟨m.timestamp, services⟩ }
        [.registered machine σ.posts.length]
  | delete {machine h} (message : m.submission = .delete machine)
      (registered : σ.handles machine = some h) :
      Routed s m σ
        { σ with
          handles := Function.update σ.handles machine none
          order := σ.order.filter (· ≠ machine)
          posts := σ.posts.modify h.serial Post.tellToStop
          phase := .removing h.serial }
        [.stopped h.serial]
  | unknown {machine} (message : m.submission = .delete machine)
      (unregistered : σ.handles machine = none) : Routed s m σ σ []

/-- Routing a message never fails. -/
theorem exists_routed (s : Settings) (m : Message) (σ : State) :
    ∃ σ' marks, σ.route s m = .ok (σ', marks) ∧ Routed s m σ σ' marks := by
  cases hm : m.submission with
  | report machine services =>
    cases hh : σ.handles machine with
    | some h =>
      refine ⟨_, _, ?_, .report hm hh⟩
      simp [State.route, hm, State.enroll, hh, bind, Except.bind]
    | none =>
      refine ⟨_, _, ?_, .first hm hh⟩
      simp [State.route, hm, State.enroll, State.register, hh, bind, Except.bind]
  | delete machine =>
    cases hh : σ.handles machine with
    | some h =>
      refine ⟨_, _, ?_, .delete hm hh⟩
      simp [State.route, hm, hh, State.dismiss]
    | none =>
      refine ⟨_, _, ?_, .unknown hm hh⟩
      simp [State.route, hm, hh]

theorem routed_of_route {m : Message} (h : σ.route s m = .ok (σ', marks)) :
    Routed s m σ σ' marks := by
  obtain ⟨σ₁, marks₁, hroute, hrouted⟩ := exists_routed s m σ
  rw [h] at hroute
  cases hroute
  exact hrouted

theorem Routed.change {m : Message} (h : Routed s m σ σ' marks)
    (known : ∀ machine hd, σ.handles machine = some hd → hd.serial < σ.posts.length)
    (serial : Nat) :
    Change s serial σ.posts[serial]? (Log.about serial marks) σ'.posts[serial]? := by
  cases h with
  | report | unknown => exact .rest _
  | @first machine services message unregistered =>
    rcases Nat.lt_trichotomy serial σ.posts.length with hlt | rfl | hgt
    · have habout : Log.about serial [.registered machine σ.posts.length] = [] := by
        simp [Log.about, Mark.serial?]
        omega
      rw [habout, List.getElem?_append_left hlt]
      exact .rest _
    · have hnew : (σ.posts ++ [.start s machine σ.now])[σ.posts.length]? =
          some (.start s machine σ.now) := by
        simp
      have habout : Log.about σ.posts.length [.registered machine σ.posts.length] =
          [.registered machine σ.posts.length] := by
        simp [Log.about, Mark.serial?]
      rw [hnew, habout, List.getElem?_eq_none (Nat.le_refl _)]
      exact .start machine σ.now
    · have habout : Log.about serial [.registered machine σ.posts.length] = [] := by
        simp [Log.about, Mark.serial?]
        omega
      rw [habout, List.getElem?_append_right (Nat.le_of_lt hgt), List.getElem?_singleton,
        if_neg (by omega), List.getElem?_eq_none (Nat.le_of_lt hgt)]
      exact .rest _
  | @delete machine hd message registered => exact .tellTo s σ.posts serial (known machine hd registered)

/-- A step changes each worker in one of the ways in which a worker can change. -/
theorem Step.change (h : Step s σ marks σ')
    (known : ∀ machine hd, σ.handles machine = some hd → hd.serial < σ.posts.length)
    (serial : Nat) :
    Change s serial σ.posts[serial]? (Log.about serial marks) σ'.posts[serial]? := by
  have hquiet : ∀ {marks : Log}, (∀ mark ∈ marks, mark.serial? = none) →
      Change s serial σ.posts[serial]? (Log.about serial marks) σ.posts[serial]? := by
    intro marks hmarks
    rw [Log.about_of_serial?_eq_none hmarks]
    exact .rest _
  cases h with
  | pass | workFails | release | part | hangUp => exact .rest _
  | submit | command | takeFails | state | noState | snapshot | shutdown | publish | giveUp
  | finish =>
    exact hquiet (by simp [Mark.serial?])
  | acknowledge =>
    apply hquiet
    intro mark hmark
    obtain ⟨c, -, rfl⟩ := List.mem_map.1 hmark
    rfl
  | take idle message routed =>
    have hchange := (routed_of_route routed).change known serial
    simpa [Log.about, Mark.serial?] using hchange
  | @deliver number machine r p phase post running room =>
    apply Change.withPost post
    · intro other hother
      simp [Log.about, Mark.serial?, hother]
    · simpa [Log.about, Mark.serial?] using Change.deliver machine r running room
  | @refuse number machine r p phase post ended =>
    by_cases hserial : number = serial
    · subst hserial
      rw [post]
      simpa [Log.about, Mark.serial?] using Change.refuse r ended
    · simpa [Log.about, Mark.serial?, hserial] using Change.rest σ.posts[serial]?
  | dismiss phase known => exact .tellTo s σ.posts serial known
  | @ask client number p before after asking post running room =>
    apply Change.withPost post
    · intro other _
      rfl
    · exact .ask client running room
  | work post step =>
    apply Change.withPost post
    · intro other hother
      exact step.about_of_ne hother
    · exact step.change

theorem Routed.known {m : Message} (h : Routed s m σ σ' marks)
    (known : ∀ machine hd, σ.handles machine = some hd → hd.serial < σ.posts.length) :
    ∀ machine hd, σ'.handles machine = some hd → hd.serial < σ'.posts.length := by
  cases h with
  | report | unknown => exact known
  | first message unregistered =>
    intro machine hd hhandle
    simp only [Function.update_apply] at hhandle
    rw [List.length_append, List.length_singleton]
    split at hhandle
    · cases hhandle
      exact Nat.lt_succ_self _
    · exact Nat.lt_succ_of_lt (known machine hd hhandle)
  | delete message registered =>
    intro machine hd hhandle
    simp only [Function.update_apply] at hhandle
    rw [List.length_modify]
    split at hhandle
    · cases hhandle
    · exact known machine hd hhandle

/-- The handles that the registry holds are those of workers that have been started. -/
theorem Run.known {log : Log} (h : Run s log σ) :
    ∀ machine hd, σ.handles machine = some hd → hd.serial < σ.posts.length := by
  induction h with
  | start => exact fun machine hd hhandle => nomatch hhandle
  | @step log σ marks σ' _ _ step ih =>
    cases step with
    | take idle message routed => exact (routed_of_route routed).known ih
    | shutdown | hangUp => exact fun machine hd hhandle => nomatch hhandle
    | deliver | ask | work => simpa [State.withPost] using ih
    | dismiss => simpa [State.dismiss] using ih
    | _ => exact ih

/-! ## From the beginning on -/

/-- The stories of the worker number `serial`, before and after it has been started. -/
inductive Story (s : Settings) (serial : Nat) : Log → Option Post → Prop where
  | unborn : Story s serial [] none
  | step {log p? marks p?'} (h : Story s serial log p?) (change : Change s serial p? marks p?') :
      Story s serial (log ++ marks) p?'

/-- A run tells a story of each worker. -/
theorem Run.story {log : Log} (h : Run s log σ) (serial : Nat) :
    Story s serial (Log.about serial log) σ.posts[serial]? := by
  induction h with
  | start => exact .unborn
  | step h _ step ih =>
    rw [Log.about_append]
    exact ih.step (step.change h.known serial)

end Steps

section Stories

variable {s : Settings} {serial : Nat} {log : Log} {p : Post}

/-- The mailbox holds what has been delivered and neither folded nor left unread. -/
structure MailSpec (log : Log) (p : Post) : Prop where
  waiting_le : p.mailbox.length ≤ mailboxCapacity
  delivered_eq : log.delivered = log.folded ++ log.unread ++ reportsIn p.mailbox
  running : p.ended = false → log.unread = [] ∧ log.refused = []
  left : p.ended = true → p.mailbox = []
  unread_le : log.unread.length ≤ 1

theorem reportsIn_append (letters letters' : List Letter) :
    reportsIn (letters ++ letters') = reportsIn letters ++ reportsIn letters' :=
  List.filterMap_append

theorem MailSpec.put {letter : Letter} {marks : Log} (h : MailSpec log p)
    (running : p.ended = false) (room : p.isFull = false)
    (hdelivered : marks.delivered = reportsIn [letter])
    (hothers : marks.folded = [] ∧ marks.unread = [] ∧ marks.refused = []) :
    MailSpec (log ++ marks) (p.put letter) := by
  obtain ⟨hfolded, hunread, hrefused⟩ := hothers
  have hempty : p.mailbox.length < 1 := Nat.lt_of_not_le (of_decide_eq_false room)
  refine ⟨?_, ?_, ?_, ?_, ?_⟩
  · rw [Post.put, List.length_append]
    exact hempty
  · simp [Post.put, hfolded, hunread, hdelivered, h.delivered_eq, reportsIn_append]
  · simpa [Post.put, hunread, hrefused] using h.running
  · intro ended
    rw [Post.put, running] at ended
    cases ended
  · simpa [hunread] using h.unread_le

/-- Steps that leave mailbox and reports alone. -/
theorem MailSpec.quiet {p' : Post} {marks : Log} (h : MailSpec log p)
    (hmailbox : p'.mailbox = p.mailbox) (hended : p'.ended = p.ended)
    (hmarks : marks.delivered = [] ∧ marks.folded = [] ∧ marks.unread = [] ∧ marks.refused = []) :
    MailSpec (log ++ marks) p' := by
  obtain ⟨hdelivered, hfolded, hunread, hrefused⟩ := hmarks
  refine ⟨?_, ?_, ?_, ?_, ?_⟩
  · rw [hmailbox]
    exact h.waiting_le
  · simpa [hdelivered, hfolded, hunread, hmailbox] using h.delivered_eq
  · simpa [hunread, hrefused, hended] using h.running
  · rw [hended, hmailbox]
    exact h.left
  · simpa [hunread] using h.unread_le

theorem MailSpec.refuse (h : MailSpec log p) (r : Report) (ended : p.ended = true) :
    MailSpec (log ++ [.refused serial r]) p := by
  have hdelivered : Log.delivered [.refused serial r] = [] := rfl
  have hfolded : Log.folded [.refused serial r] = [] := rfl
  have hunread : Log.unread [.refused serial r] = [] := rfl
  refine ⟨h.waiting_le, ?_, ?_, h.left, ?_⟩
  · simpa [hdelivered, hfolded, hunread] using h.delivered_eq
  · simp [ended]
  · simpa [hunread] using h.unread_le

theorem MailSpec.fold {machine : String} {r : Report} {rest : List Letter} (h : MailSpec log p)
    (now : Nat) (running : p.ended = false) (letter : p.mailbox = .report machine r :: rest) :
    MailSpec (log ++ [.folded serial now r (p.fold s now r).2]) (p.fold s now r).1 := by
  obtain ⟨hunread, hrefused⟩ := h.running running
  have htail : (p.fold s now r).1.mailbox = rest := by
    rw [Post.fold, letter]
    rfl
  have hreports : reportsIn p.mailbox = r :: reportsIn rest := by
    rw [letter]
    rfl
  have hnew : Log.folded [.folded serial now r (p.fold s now r).2] = [r] := rfl
  have hnone : Log.unread [.folded serial now r (p.fold s now r).2] = [] := rfl
  have hundelivered : Log.delivered [.folded serial now r (p.fold s now r).2] = [] := rfl
  have hunrefused : Log.refused [.folded serial now r (p.fold s now r).2] = [] := rfl
  refine ⟨?_, ?_, ?_, ?_, ?_⟩
  · have hlength := h.waiting_le
    rw [letter] at hlength
    rw [htail]
    exact Nat.le_of_succ_le hlength
  · have hdelivered := h.delivered_eq
    rw [hunread, hreports] at hdelivered
    simpa [hnew, hnone, hundelivered, hunread, htail] using hdelivered
  · simp [hnone, hunrefused, hunread, hrefused]
  · intro ended
    exact absurd (running.symm.trans ended) nofun
  · simp [hnone, hunread]

theorem MailSpec.answer {client : Nat} {rest : List Letter} (h : MailSpec log p)
    (letter : p.mailbox = .query client :: rest) : MailSpec log { p with mailbox := rest } := by
  have hreports : reportsIn p.mailbox = reportsIn rest := by
    rw [letter]
    rfl
  refine ⟨?_, ?_, h.running, ?_, h.unread_le⟩
  · have hlength := h.waiting_le
    rw [letter] at hlength
    exact Nat.le_of_succ_le hlength
  · rw [h.delivered_eq, hreports]
  · intro ended
    have hnil := h.left ended
    rw [letter] at hnil
    cases hnil

theorem MailSpec.leave (h : MailSpec log p) (running : p.ended = false) :
    MailSpec (log ++ [.ended serial p.mailbox]) p.leave := by
  obtain ⟨hunread, hrefused⟩ := h.running running
  have hnew : Log.unread [.ended serial p.mailbox] = reportsIn p.mailbox := List.append_nil _
  have hunfolded : Log.folded [.ended serial p.mailbox] = [] := rfl
  have hundelivered : Log.delivered [.ended serial p.mailbox] = [] := rfl
  have hempty : reportsIn p.leave.mailbox = [] := rfl
  refine ⟨Nat.zero_le _, ?_, nofun, fun _ => rfl, ?_⟩
  · have hdelivered := h.delivered_eq
    simpa [hnew, hunfolded, hundelivered, hunread, hempty] using hdelivered
  · rw [Log.unread_append, hnew, hunread]
    exact Nat.le_trans (List.length_filterMap_le _ _) h.waiting_le

/-- A worker that has not been started has no story. -/
theorem Story.eq_nil (h : Story s serial log none) : log = [] := by
  generalize hp : none = p? at h
  induction h with
  | unborn => rfl
  | step _ change ih =>
    cases change with
    | rest => rw [ih hp, List.append_nil]
    | _ => cases hp

theorem Story.mail (h : Story s serial log (some p)) : MailSpec log p := by
  generalize hp : some p = p? at h
  induction h generalizing p with
  | unborn => cases hp
  | step hstory change ih =>
    cases change with
    | rest =>
      rw [List.append_nil]
      exact ih hp
    | start machine now =>
      cases hp
      rw [hstory.eq_nil]
      exact ⟨Nat.zero_le _, rfl, fun _ => ⟨rfl, rfl⟩, fun _ => rfl, Nat.zero_le _⟩
    | deliver machine r running room =>
      cases hp
      exact (ih rfl).put running room rfl ⟨rfl, rfl, rfl⟩
    | ask client running room =>
      cases hp
      exact (ih rfl).put running room rfl ⟨rfl, rfl, rfl⟩
    | refuse r ended =>
      cases hp
      exact (ih rfl).refuse r ended
    | tell q | tick instant serving | trim q =>
      cases hp
      exact (ih rfl).quiet rfl rfl ⟨rfl, rfl, rfl, rfl⟩
    | fold now serving letter =>
      cases hp
      exact (ih rfl).fold now serving.running letter
    | answer letter =>
      cases hp
      rw [List.append_nil]
      exact (ih rfl).answer letter
    | leave running reason =>
      cases hp
      exact (ih rfl).leave running

/-- The history is that of the reports which have been folded, with some trims in between. -/
theorem Story.history_eq (h : Story s serial log (some p)) :
    ∃ ops, p.tended.probe.history = History.empty.after ops ∧
      History.stored ops = log.folded.reverse := by
  generalize hp : some p = p? at h
  induction h generalizing p with
  | unborn => cases hp
  | step hstory change ih =>
    cases change with
    | rest =>
      rw [List.append_nil]
      exact ih hp
    | start machine now =>
      cases hp
      rw [hstory.eq_nil]
      exact ⟨[], rfl, rfl⟩
    | @fold q machine r rest now serving letter =>
      cases hp
      obtain ⟨ops, hops, hstored⟩ := ih rfl
      refine ⟨.store r :: ops, congrArg (fun h => h.store r.timestamp r.services) hops, ?_⟩
      have hcons : History.stored (.store r :: ops) = r :: History.stored ops := rfl
      rw [hcons, hstored]
      simp [Log.folded, Mark.folded?]
    | tick instant serving =>
      cases hp
      obtain ⟨ops, hops, hstored⟩ := ih rfl
      refine ⟨ops, (Probe.tick_history s _).trans hops, ?_⟩
      simpa [Log.folded, List.filterMap_cons, Mark.folded?] using hstored
    | trim q =>
      cases hp
      obtain ⟨ops, hops, hstored⟩ := ih rfl
      rw [List.append_nil]
      exact ⟨.trim :: ops, congrArg (fun h => h.trim.1) hops, hstored⟩
    | deliver | ask | refuse | tell | answer | leave =>
      cases hp
      obtain ⟨ops, hops, hstored⟩ := ih rfl
      exact ⟨ops, hops, by simpa [Log.folded, List.filterMap_cons, Mark.folded?] using hstored⟩

/-- The name of a worker is that of the machine for which it has been started. -/
theorem Story.name_eq (h : Story s serial log (some p)) {machine : String}
    (registered : .registered machine serial ∈ log) : p.tended.probe.name = machine := by
  generalize hp : some p = p? at h
  induction h generalizing p with
  | unborn => cases hp
  | step hstory change ih =>
    cases change with
    | rest =>
      rw [List.append_nil] at registered
      exact ih registered hp
    | start machine' now =>
      cases hp
      rw [hstory.eq_nil] at registered
      simp at registered
      exact registered.symm
    | @tick q instant serving =>
      cases hp
      have hname := ih (by simpa using registered) rfl
      have halive : ({ q.tended.probe with deadline := instant } : Probe).lost = false :=
        serving.alive
      exact (Probe.name_serve halive .tick).trans hname
    | _ =>
      cases hp
      have hname := ih (by simpa using registered) rfl
      exact hname

/-- After the signal to stop no report comes up in a certain way. -/
def Silent (report? : Mark → Option Report) (serial : Nat) (log : Log) : Prop :=
  ∀ before after : Log, log = before ++ .stopped serial :: after → after.filterMap report? = []

theorem Silent.append {report? : Mark → Option Report} {mark : Mark}
    (h : Silent report? serial log) (hmark : .stopped serial ∈ log → report? mark = none) :
    Silent report? serial (log ++ [mark]) := by
  intro before after hsplit
  rcases List.eq_nil_or_concat after with rfl | ⟨after, last, rfl⟩
  · rfl
  · have hlast : log = before ++ .stopped serial :: after ∧ mark = last := by
      rw [List.concat_eq_append, ← List.cons_append, ← List.append_assoc] at hsplit
      simpa using List.append_inj' hsplit rfl
    obtain ⟨hlog, rfl⟩ := hlast
    have htold : .stopped serial ∈ log := by simp [hlog]
    simp [h before after hlog, hmark htold]

/-- A worker ends when it has been told to, and from then on folds nothing. -/
structure StopSpec (serial : Nat) (log : Log) (p : Post) : Prop where
  told_iff : p.stopping = true ↔ .stopped serial ∈ log
  silent : Silent Mark.folded? serial log
  reason : p.ended = true → p.stopping = true ∨ p.tended.probe.lost = true

theorem Story.stop (h : Story s serial log (some p)) : StopSpec serial log p := by
  generalize hp : some p = p? at h
  induction h generalizing p with
  | unborn => cases hp
  | step hstory change ih =>
    cases change with
    | rest =>
      rw [List.append_nil]
      exact ih hp
    | start machine now =>
      cases hp
      rw [hstory.eq_nil]
      refine ⟨by simp [Post.start], ?_, nofun⟩
      apply Silent.append
      · intro before after hsplit
        simp at hsplit
      · exact fun _ => rfl
    | deliver | refuse =>
      cases hp
      obtain ⟨htold, hsilent, hreason⟩ := ih rfl
      exact ⟨htold.trans (by simp), hsilent.append fun _ => rfl, hreason⟩
    | ask | answer | trim =>
      cases hp
      obtain ⟨htold, hsilent, hreason⟩ := ih rfl
      rw [List.append_nil]
      exact ⟨htold, hsilent, hreason⟩
    | tell q =>
      cases hp
      obtain ⟨htold, hsilent, hreason⟩ := ih rfl
      exact ⟨by simp [Post.tellToStop], hsilent.append fun _ => rfl, fun _ => .inl rfl⟩
    | fold now serving letter =>
      cases hp
      obtain ⟨htold, hsilent, hreason⟩ := ih rfl
      refine ⟨htold.trans (by simp), hsilent.append fun hmem => ?_, fun ended => ?_⟩
      · have hstopping := htold.2 hmem
        rw [serving.unstopped] at hstopping
        cases hstopping
      · exact absurd (serving.running.symm.trans ended) nofun
    | tick instant serving =>
      cases hp
      obtain ⟨htold, hsilent, hreason⟩ := ih rfl
      refine ⟨htold.trans (by simp), hsilent.append fun _ => rfl, fun ended => ?_⟩
      exact absurd (serving.running.symm.trans ended) nofun
    | leave running reason =>
      cases hp
      obtain ⟨htold, hsilent, hreason⟩ := ih rfl
      exact ⟨htold.trans (by simp), hsilent.append fun _ => rfl, fun _ => reason⟩

end Stories

end Vigil.Traffic

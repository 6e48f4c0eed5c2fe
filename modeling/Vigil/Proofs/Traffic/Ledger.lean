import Vigil.Proofs.Registry.Listing
import Vigil.Proofs.Traffic.Story

/-!
# The ledger of the registry

The registry keeps the list of machines and the handles of their workers apart. Both show the
machines that the messages it has taken leave registered, and every report of such a machine since
its registration has gone to the worker that the registry holds for it.
-/

namespace Vigil.Traffic

def submissions (messages : List Message) : List Submission :=
  messages.map Message.submission

def reportsOf (machine : String) (messages : List Message) : List Report :=
  messages.filterMap fun m =>
    match m.submission with
    | .report other services => if other = machine then some ⟨m.timestamp, services⟩ else none
    | .delete _ => none

/-- The registry has not begun to stop all workers. -/
def Phase.isOpen : Phase → Bool
  | .idle | .delivering _ _ _ | .removing _ => true
  | .closing _ _ | .parting _ _ _ | .departing | .ended => false

/-- The report that the registry is waiting to deliver to a worker, if there is one. -/
def State.inFlight (serial : Nat) (σ : State) : List Report :=
  match σ.phase with
  | .delivering target _ r => if target = serial then [r] else []
  | _ => []

def Mark.isRouting : Mark → Bool
  | .taken _ | .registered _ _ | .delivered _ _ | .refused _ _ | .stopped _ => true
  | _ => false

section

variable {s : Settings} {σ σ' : State} {log marks : Log} {machine other : String} {serial : Nat}
variable {hd : Handle}

theorem submissions_append (xs ys : List Message) :
    submissions (xs ++ ys) = submissions xs ++ submissions ys :=
  List.map_append

theorem reportsOf_append (machine : String) (xs ys : List Message) :
    reportsOf machine (xs ++ ys) = reportsOf machine xs ++ reportsOf machine ys :=
  List.filterMap_append

theorem inFlight_of_phase_ne (h : ∀ target machine r, σ.phase ≠ .delivering target machine r)
    (serial : Nat) : σ.inFlight serial = [] := by
  unfold State.inFlight
  split
  · rename_i heq
    exact absurd heq (h _ _ _)
  · rfl

/-- The worker that the registry holds for a machine has been started for this machine and has not
been told to stop. It has got the reports since the machine was registered, apart from the one that
is still to be delivered. -/
structure Accounted (log : Log) (σ : State) (machine : String) (hd : Handle) : Prop where
  name_eq : hd.name = machine
  started : .registered machine hd.serial ∈ log
  untold : .stopped hd.serial ∉ log
  routed : ∃ i, RegisteredAt (submissions log.taken) machine i ∧
    reportsOf machine (log.taken.drop i) =
      (log.about hd.serial).delivered ++ (log.about hd.serial).refused ++ σ.inFlight hd.serial

structure Ledger (log : Log) (σ : State) : Prop where
  order_eq : σ.phase.isOpen = true → σ.order = listing (submissions log.taken)
  closed : σ.phase.isOpen = false → σ.order = []
  keys : ∀ machine, machine ∈ σ.order ↔ (σ.handles machine).isSome
  accounted : ∀ machine hd, σ.handles machine = some hd → Accounted log σ machine hd
  target : ∀ serial machine r, σ.phase = .delivering serial machine r →
    σ.handles machine = some ⟨machine, serial⟩

/-! ## Marks that do not matter -/

theorem taken_of_unrouted (h : ∀ mark ∈ marks, mark.isRouting = false) : marks.taken = [] := by
  apply List.filterMap_eq_nil_iff.2
  intro mark hmark
  have hrouting := h mark hmark
  cases mark <;> first | rfl | cases hrouting

theorem delivered_of_unrouted (h : ∀ mark ∈ marks, mark.isRouting = false) (serial : Nat) :
    (marks.about serial).delivered = [] ∧ (marks.about serial).refused = [] := by
  constructor <;> apply List.filterMap_eq_nil_iff.2 <;> intro mark hmark
  all_goals
    have hrouting := h mark (List.mem_filter.1 hmark).1
    cases mark <;> first | rfl | cases hrouting

/-- A step that routes nothing leaves the ledger in order. -/
theorem Ledger.frame (h : Ledger log σ) (hmarks : ∀ mark ∈ marks, mark.isRouting = false)
    (hhandles : σ'.handles = σ.handles) (horder : σ'.order = σ.order)
    (hphase : σ'.phase = σ.phase) : Ledger (log ++ marks) σ' := by
  have htaken : (log ++ marks).taken = log.taken := by
    rw [Log.taken_append, taken_of_unrouted hmarks, List.append_nil]
  have hflight : ∀ serial, σ'.inFlight serial = σ.inFlight serial := by
    intro serial
    unfold State.inFlight
    rw [hphase]
  refine ⟨?_, ?_, ?_, ?_, ?_⟩
  · rw [htaken, hphase, horder]
    exact h.order_eq
  · rw [hphase, horder]
    exact h.closed
  · rw [horder, hhandles]
    exact h.keys
  · intro machine hd hhandle
    rw [hhandles] at hhandle
    obtain ⟨hname, hstarted, huntold, i, hi, hreports⟩ := h.accounted machine hd hhandle
    obtain ⟨hdelivered, hrefused⟩ := delivered_of_unrouted hmarks hd.serial
    refine ⟨hname, List.mem_append_left _ hstarted, ?_, i, ?_, ?_⟩
    · intro hmem
      rcases List.mem_append.1 hmem with hmem | hmem
      · exact huntold hmem
      · exact nomatch hmarks _ hmem
    · rw [htaken]
      exact hi
    · rw [htaken, hreports, hflight]
      simp [hdelivered, hrefused]
  · rw [hphase, hhandles]
    exact h.target

/-- Once the registry has begun to stop all workers, there is nothing left to account for. -/
theorem ledger_closed (hphase : σ.phase.isOpen = false) (horder : σ.order = [])
    (hhandles : ∀ machine, σ.handles machine = none) (log : Log) : Ledger log σ := by
  refine ⟨?_, fun _ => horder, ?_, ?_, ?_⟩
  · intro hopen
    rw [hphase] at hopen
    cases hopen
  · simp [horder, hhandles]
  · intro machine hd hhandle
    rw [hhandles] at hhandle
    cases hhandle
  · intro serial machine r heq
    rw [heq] at hphase
    cases hphase

theorem Ledger.handles_eq_none (h : Ledger log σ) (hphase : σ.phase.isOpen = false)
    (machine : String) : σ.handles machine = none := by
  have hkeys := h.keys machine
  rw [h.closed hphase] at hkeys
  simpa using hkeys

/-! ## Workers of different machines -/

/-- No two machines share a worker. -/
def Apart (σ : State) : Prop :=
  ∀ machine other hd hd', σ.handles machine = some hd → σ.handles other = some hd' →
    machine ≠ other → hd.serial ≠ hd'.serial

theorem Ledger.apart (hrun : Run s log σ) (h : Ledger log σ) : Apart σ := by
  intro machine other hd hd' hhandle hhandle' hne hserial
  have hknown := hrun.known machine hd hhandle
  have hstory := hrun.story hd.serial
  rw [List.getElem?_eq_getElem hknown] at hstory
  have hmem : .registered machine hd.serial ∈ Log.about hd.serial log :=
    List.mem_filter.2 ⟨(h.accounted machine hd hhandle).started, by simp [Mark.serial?]⟩
  have hmem' : .registered other hd.serial ∈ Log.about hd.serial log := by
    rw [hserial]
    exact List.mem_filter.2 ⟨(h.accounted other hd' hhandle').started, by simp [Mark.serial?]⟩
  exact hne ((hstory.name_eq hmem).symm.trans (hstory.name_eq hmem'))

/-- Of a worker that has not been started nothing has been heard. -/
theorem Run.about_next (h : Run s log σ) : Log.about σ.posts.length log = [] := by
  have hstory := h.story σ.posts.length
  rw [List.getElem?_eq_none (Nat.le_refl _)] at hstory
  exact hstory.eq_nil

/-! ## Messages -/

theorem drop_taken {i : Nat} (h : RegisteredAt (submissions log.taken) machine i) (m : Message) :
    (log.taken ++ [m]).drop i = log.taken.drop i ++ [m] := by
  have hlt := h.1.lt_length
  rw [submissions, List.length_map] at hlt
  exact List.drop_append_of_le_length (Nat.le_of_lt hlt)

theorem not_stopped_of_about {log : Log} (h : Log.about serial log = []) : .stopped serial ∉ log := by
  intro hmem
  have habout : .stopped serial ∈ Log.about serial log :=
    List.mem_filter.2 ⟨hmem, by simp [Mark.serial?]⟩
  rw [h] at habout
  cases habout

/-- A message for one machine does not touch the account of another. -/
theorem Accounted.of_other (h : Accounted log σ machine hd) {m : Message}
    (hidle : σ.inFlight hd.serial = []) (hflight : σ'.inFlight hd.serial = [])
    (hkept : ∀ i, RegisteredAt (submissions log.taken) machine i →
      RegisteredAt (submissions log.taken ++ [m.submission]) machine i)
    (hnone : reportsOf machine [m] = []) (htaken : marks.taken = [])
    (hmarks : Log.about hd.serial marks = []) :
    Accounted (log ++ .taken m :: marks) σ' machine hd := by
  obtain ⟨hname, hstarted, huntold, i, hi, hreports⟩ := h
  have htaken' : (log ++ .taken m :: marks).taken = log.taken ++ [m] := by
    rw [Log.taken_append]
    exact congrArg (fun ms => log.taken ++ m :: ms) htaken
  have habout : Log.about hd.serial (log ++ .taken m :: marks) = Log.about hd.serial log := by
    have hcons : Log.about hd.serial (.taken m :: marks) = Log.about hd.serial marks := rfl
    rw [Log.about_append, hcons, hmarks, List.append_nil]
  refine ⟨hname, List.mem_append_left _ hstarted, ?_, i, ?_, ?_⟩
  · intro hmem
    rcases List.mem_append.1 hmem with hmem | hmem
    · exact huntold hmem
    · rcases List.mem_cons.1 hmem with hmem | hmem
      · cases hmem
      · exact not_stopped_of_about hmarks hmem
  · rw [htaken', submissions_append]
    exact hkept i hi
  · rw [htaken', drop_taken hi, reportsOf_append, hnone, habout, hreports, hidle, hflight,
      List.append_nil]

theorem reportsOf_report {m : Message} {services : Roster String}
    (h : m.submission = .report machine services) :
    reportsOf machine [m] = [⟨m.timestamp, services⟩] := by
  simp [reportsOf, h]

theorem reportsOf_of_ne {m : Message} {services : Roster String}
    (h : m.submission = .report other services) (hne : machine ≠ other) :
    reportsOf machine [m] = [] := by
  simp [reportsOf, h, Ne.symm hne]

theorem reportsOf_delete {m : Message} (h : m.submission = .delete other) (machine : String) :
    reportsOf machine [m] = [] := by
  simp [reportsOf, h]

theorem inFlight_delivering {r : Report} (h : σ.phase = .delivering serial machine r)
    (target : Nat) : σ.inFlight target = if serial = target then [r] else [] := by
  rw [State.inFlight, h]

/-- The account of a machine when a message about it is a report. -/
theorem Accounted.report (h : Accounted log σ machine hd) {m : Message} {services : Roster String}
    (hm : m.submission = .report machine services) (hidle : σ.inFlight hd.serial = [])
    (hphase : σ'.phase = .delivering hd.serial machine ⟨m.timestamp, services⟩) :
    Accounted (log ++ [.taken m]) σ' machine hd := by
  obtain ⟨hname, hstarted, huntold, i, hi, hreports⟩ := h
  have htaken : (log ++ [Mark.taken m]).taken = log.taken ++ [m] := Log.taken_append _ _
  have habout : Log.about hd.serial (log ++ [.taken m]) = Log.about hd.serial log := by
    rw [Log.about_append]
    exact List.append_nil _
  refine ⟨hname, List.mem_append_left _ hstarted, ?_, i, ?_, ?_⟩
  · simpa using huntold
  · rw [htaken, submissions_append]
    change RegisteredAt (submissions log.taken ++ [m.submission]) machine i
    rw [hm]
    exact hi.append_report
  · rw [htaken, drop_taken hi, reportsOf_append, reportsOf_report hm, habout, hreports, hidle,
      inFlight_delivering hphase, if_pos rfl, List.append_nil]

/-- The account of a machine that has just been registered. -/
theorem accounted_first {m : Message} {services : Roster String}
    (hm : m.submission = .report machine services) (hnew : Log.about serial log = [])
    (hunlisted : machine ∉ listing (submissions log.taken))
    (hphase : σ'.phase = .delivering serial machine ⟨m.timestamp, services⟩) :
    Accounted (log ++ [.taken m, .registered machine serial]) σ' machine ⟨machine, serial⟩ := by
  have htaken : (log ++ [Mark.taken m, Mark.registered machine serial]).taken = log.taken ++ [m] :=
    Log.taken_append _ _
  have hnone : ∀ k, ¬LiveAt (submissions log.taken) machine k := fun k hk =>
    hunlisted (((listing_spec _).mem_iff machine).2 ⟨k, hk⟩)
  refine ⟨rfl, by simp, ?_, (submissions log.taken).length, ?_, ?_⟩
  · simpa using not_stopped_of_about hnew
  · rw [htaken, submissions_append]
    change RegisteredAt (submissions log.taken ++ [m.submission]) machine _
    rw [hm]
    exact registeredAt_append_report_of_not_live services hnone
  · have habout : Log.about serial (log ++ [.taken m, .registered machine serial]) =
        [.registered machine serial] := by
      rw [Log.about_append, hnew]
      simp [Log.about, Mark.serial?]
    rw [htaken, habout, submissions, List.length_map, List.drop_left, reportsOf_report hm,
      inFlight_delivering hphase, if_pos rfl]
    rfl

theorem inFlight_of_idle (idle : σ.phase = .idle) (serial : Nat) : σ.inFlight serial = [] :=
  inFlight_of_phase_ne (by simp [idle]) serial

theorem Ledger.listing_taken (h : Ledger log σ) (idle : σ.phase = .idle) (m : Message)
    (hmarks : marks.taken = []) :
    listing (submissions (log ++ .taken m :: marks).taken) = enlist σ.order m.submission := by
  have htaken : (log ++ .taken m :: marks).taken = log.taken ++ [m] := by
    rw [Log.taken_append]
    exact congrArg (fun ms => log.taken ++ m :: ms) hmarks
  rw [htaken, submissions_append, h.order_eq (by rw [idle]; rfl)]
  exact listing_append_singleton _ _

section Messages

variable {m : Message} {services : Roster String}

theorem Ledger.report (h : Ledger log σ) (idle : σ.phase = .idle) (hapart : Apart σ)
    (message : m.submission = .report machine services)
    (registered : σ.handles machine = some hd) :
    Ledger (log ++ [.taken m])
      { σ with phase := .delivering hd.serial machine ⟨m.timestamp, services⟩ } := by
  have hmem : machine ∈ σ.order := by simp [h.keys, registered]
  refine ⟨fun _ => ?_, nofun, h.keys, ?_, ?_⟩
  · rw [h.listing_taken idle m rfl, message, enlist_report_of_mem hmem]
  · intro other hd' hhandle
    by_cases hne : other = machine
    · subst hne
      rw [registered] at hhandle
      cases hhandle
      exact (h.accounted other hd registered).report message (inFlight_of_idle idle _) rfl
    · have hserial := hapart machine other hd hd' registered hhandle (Ne.symm hne)
      apply (h.accounted other hd' hhandle).of_other (inFlight_of_idle idle _)
      · rw [inFlight_delivering rfl, if_neg hserial]
      · rw [message]
        exact fun _ hi => hi.append_report
      · exact reportsOf_of_ne message hne
      · rfl
      · rfl
  · intro serial target r hphase
    cases hphase
    have hname := (h.accounted machine hd registered).name_eq
    rw [registered, ← hname]

theorem Ledger.first (h : Ledger log σ) (idle : σ.phase = .idle)
    (hfresh : Log.about σ.posts.length log = [])
    (hknown : ∀ machine hd, σ.handles machine = some hd → hd.serial < σ.posts.length)
    (message : m.submission = .report machine services)
    (unregistered : σ.handles machine = none) :
    Ledger (log ++ [.taken m, .registered machine σ.posts.length])
      { σ with
        handles := Function.update σ.handles machine (some ⟨machine, σ.posts.length⟩)
        order := σ.order ++ [machine]
        posts := σ.posts ++ [.start s machine σ.now]
        phase := .delivering σ.posts.length machine ⟨m.timestamp, services⟩ } := by
  have hmem : machine ∉ σ.order := by simp [h.keys, unregistered]
  have hunlisted : machine ∉ listing (submissions log.taken) := by
    rw [← h.order_eq (by rw [idle]; rfl)]
    exact hmem
  refine ⟨fun _ => ?_, nofun, ?_, ?_, ?_⟩
  · rw [h.listing_taken idle m rfl, message, enlist_report_of_not_mem hmem]
  · intro other
    dsimp only
    rw [List.mem_append, List.mem_singleton, h.keys, Function.update_apply]
    by_cases hne : other = machine <;> simp [hne]
  · intro other hd hhandle
    dsimp only at hhandle
    by_cases hne : other = machine
    · subst hne
      rw [Function.update_self] at hhandle
      cases hhandle
      exact accounted_first message hfresh hunlisted rfl
    · rw [Function.update_of_ne hne] at hhandle
      have hserial := Nat.ne_of_gt (hknown other hd hhandle)
      apply (h.accounted other hd hhandle).of_other (inFlight_of_idle idle _)
      · rw [inFlight_delivering rfl, if_neg hserial]
      · rw [message]
        exact fun _ hi => hi.append_report
      · exact reportsOf_of_ne message hne
      · rfl
      · simp [Log.about, Mark.serial?, hserial]
  · intro serial target r hphase
    cases hphase
    exact Function.update_self _ _ _

theorem Ledger.delete (h : Ledger log σ) (idle : σ.phase = .idle) (hapart : Apart σ)
    (message : m.submission = .delete machine) (registered : σ.handles machine = some hd) :
    Ledger (log ++ [.taken m, .stopped hd.serial])
      { σ with
        handles := Function.update σ.handles machine none
        order := σ.order.filter (· ≠ machine)
        posts := σ.posts.modify hd.serial Post.tellToStop
        phase := .removing hd.serial } := by
  refine ⟨fun _ => ?_, nofun, ?_, ?_, nofun⟩
  · rw [h.listing_taken idle m rfl, message]
    rfl
  · intro other
    dsimp only
    rw [List.mem_filter, h.keys, Function.update_apply]
    by_cases hne : other = machine <;> simp [hne]
  · intro other hd' hhandle
    dsimp only at hhandle
    by_cases hne : other = machine
    · subst hne
      rw [Function.update_self] at hhandle
      cases hhandle
    · rw [Function.update_of_ne hne] at hhandle
      have hserial := hapart machine other hd hd' registered hhandle (Ne.symm hne)
      apply (h.accounted other hd' hhandle).of_other (inFlight_of_idle idle _)
      · rfl
      · rw [message]
        exact fun _ hi => hi.append_delete hne
      · exact reportsOf_delete message other
      · rfl
      · simp [Log.about, Mark.serial?, hserial]

theorem Ledger.unknown (h : Ledger log σ) (idle : σ.phase = .idle)
    (message : m.submission = .delete machine) (unregistered : σ.handles machine = none) :
    Ledger (log ++ [.taken m]) σ := by
  have hmem : machine ∉ σ.order := by simp [h.keys, unregistered]
  refine ⟨fun _ => ?_, h.closed, h.keys, ?_, h.target⟩
  · rw [h.listing_taken idle m rfl, message, enlist_delete_of_not_mem hmem]
  · intro other hd hhandle
    have hne : other ≠ machine := by
      rintro rfl
      rw [unregistered] at hhandle
      cases hhandle
    apply (h.accounted other hd hhandle).of_other (inFlight_of_idle idle _) (inFlight_of_idle idle _)
    · rw [message]
      exact fun _ hi => hi.append_delete hne
    · exact reportsOf_delete message other
    · rfl
    · rfl

/-- A message that the registry routes is entered in the ledger. -/
theorem Ledger.routed (h : Ledger log σ) (idle : σ.phase = .idle) (hapart : Apart σ)
    (hfresh : Log.about σ.posts.length log = [])
    (hknown : ∀ machine hd, σ.handles machine = some hd → hd.serial < σ.posts.length)
    (hrouted : Routed s m σ σ' marks) : Ledger (log ++ .taken m :: marks) σ' := by
  cases hrouted with
  | report message registered => exact h.report idle hapart message registered
  | first message unregistered => exact h.first idle hfresh hknown message unregistered
  | delete message registered => exact h.delete idle hapart message registered
  | unknown message unregistered => exact h.unknown idle message unregistered

end Messages

/-- A report that is delivered, or refused, is no longer on its way. -/
theorem Ledger.handedOver (h : Ledger log σ) {r : Report} {mark : Mark}
    (phase : σ.phase = .delivering serial machine r) (idle : σ'.phase = .idle)
    (hhandles : σ'.handles = σ.handles) (horder : σ'.order = σ.order)
    (hmark : mark = .delivered serial r ∧ (Log.about serial log).refused = [] ∨
      mark = .refused serial r)
    (hapart : Apart σ) : Ledger (log ++ [mark]) σ' := by
  have hserial : mark.serial? = some serial := by
    rcases hmark with ⟨rfl, -⟩ | rfl <;> rfl
  have htaken : (log ++ [mark]).taken = log.taken := by
    rcases hmark with ⟨rfl, -⟩ | rfl <;> exact (Log.taken_append _ _).trans (List.append_nil _)
  have hflight : ∀ serial, σ'.inFlight serial = [] := inFlight_of_idle idle
  have hopen : σ.phase.isOpen = true := by rw [phase]; rfl
  refine ⟨?_, ?_, ?_, ?_, ?_⟩
  · intro _
    rw [htaken, horder]
    exact h.order_eq hopen
  · simp [idle, Phase.isOpen]
  · rw [horder, hhandles]
    exact h.keys
  · intro other hd hhandle
    rw [hhandles] at hhandle
    obtain ⟨hname, hstarted, huntold, i, hi, hreports⟩ := h.accounted other hd hhandle
    refine ⟨hname, List.mem_append_left _ hstarted, ?_, i, ?_, ?_⟩
    · rcases hmark with ⟨rfl, -⟩ | rfl <;> simpa using huntold
    · rw [htaken]
      exact hi
    · rw [htaken, hreports, hflight, inFlight_delivering phase, Log.about_append]
      have htarget := h.target serial machine r phase
      by_cases hne : other = machine
      · subst hne
        rw [htarget] at hhandle
        cases hhandle
        have habout : Log.about serial [mark] = [mark] := by simp [Log.about, hserial]
        rw [habout, if_pos rfl, Log.delivered_append, Log.refused_append]
        rcases hmark with ⟨rfl, hrefused⟩ | rfl
        · rw [hrefused]
          simp [Log.delivered, Log.refused, Mark.delivered?]
        · simp [Log.delivered, Log.refused, List.filterMap_cons, Mark.delivered?]
      · have hother := hapart machine other _ hd htarget hhandle (Ne.symm hne)
        have habout : Log.about hd.serial [mark] = [] := by simp [Log.about, hserial, hother]
        rw [habout, if_neg hother]
        simp [Log.delivered, Log.refused]
  · simp [idle]

theorem WorkerStep.unrouted {now : Nat} {p p' : Post} (h : WorkerStep s now serial p marks p') :
    ∀ mark ∈ marks, mark.isRouting = false ∧ ∀ m, mark ≠ .submitted m := by
  cases h with
  | leave running reason =>
    intro mark hmark
    rcases List.mem_cons.1 hmark with rfl | hmark
    · exact ⟨rfl, nofun⟩
    · obtain ⟨c, -, rfl⟩ := List.mem_map.1 hmark
      exact ⟨rfl, nofun⟩
  | _ => simp [Mark.isRouting]

theorem Run.ledger (h : Run s log σ) : Ledger log σ := by
  induction h with
  | start now => exact ⟨fun _ => rfl, nofun, by simp [State.start], nofun, nofun⟩
  | @step log σ marks σ' hrun running step ih =>
    have hapart := ih.apart hrun
    cases step with
    | pass | workFails => exact ih.frame nofun rfl rfl rfl
    | submit | command | state | noState | snapshot | publish | giveUp =>
      exact ih.frame (by simp [Mark.isRouting]) rfl rfl rfl
    | ask => exact ih.frame nofun rfl rfl rfl
    | work post step => exact ih.frame (fun mark hmark => (step.unrouted mark hmark).1) rfl rfl rfl
    | @take σ' m rest marks idle message routed =>
      have hledger : Ledger (log ++ []) { σ with ingress := rest } := ih.frame nofun rfl rfl rfl
      rw [List.append_nil] at hledger
      exact hledger.routed idle hapart hrun.about_next hrun.known (routed_of_route routed)
    | @takeFails m rest v idle message failed =>
      obtain ⟨σ', marks, hroute, -⟩ := exists_routed s m { σ with ingress := rest }
      rw [failed] at hroute
      cases hroute
    | @deliver serial machine r p phase post running room =>
      have hmail := hrun.story serial
      rw [post] at hmail
      exact ih.handedOver phase rfl rfl rfl (.inl ⟨rfl, (hmail.mail.running running).2⟩) hapart
    | refuse phase post ended => exact ih.handedOver phase rfl rfl rfl (.inr rfl) hapart
    | release phase post ended =>
      have hopen : σ.phase.isOpen = true := by rw [phase]; rfl
      have hflight : ∀ serial, σ.inFlight serial = [] := inFlight_of_phase_ne (by simp [phase])
      rw [List.append_nil]
      refine ⟨fun _ => ih.order_eq hopen, nofun, ih.keys, ?_, nofun⟩
      intro machine hd hhandle
      obtain ⟨hname, hstarted, huntold, i, hi, hreports⟩ := ih.accounted machine hd hhandle
      rw [hflight] at hreports
      exact ⟨hname, hstarted, huntold, i, hi, hreports⟩
    | shutdown idle silent command drained | hangUp idle silent quiet drained =>
      exact ledger_closed rfl rfl (fun _ => rfl) _
    | dismiss phase known | part phase post ended | acknowledge phase | finish phase =>
      have hclosed : σ.phase.isOpen = false := by rw [phase]; rfl
      apply ledger_closed
      · rfl
      · exact ih.closed hclosed
      · exact ih.handles_eq_none hclosed

theorem Routed.queue {m : Message} (h : Routed s m σ σ' marks) :
    σ'.ingress = σ.ingress ∧ marks.taken = [] ∧ marks.submitted = [] := by
  cases h <;> exact ⟨rfl, rfl, rfl⟩

/-- The ingress is a queue. -/
theorem Run.queue (h : Run s log σ) : log.submitted = log.taken ++ σ.ingress := by
  induction h with
  | start now => rfl
  | @step log σ marks σ' hrun running step ih =>
    have hquiet : marks.submitted = [] → marks.taken = [] → σ'.ingress = σ.ingress →
        (log ++ marks).submitted = (log ++ marks).taken ++ σ'.ingress := by
      intro hsubmitted htaken hingress
      simp [hsubmitted, htaken, hingress, ih]
    cases step with
    | submit m running room =>
      have hsubmitted : Log.submitted [.submitted m] = [m] := rfl
      have htaken : Log.taken [.submitted m] = [] := rfl
      simp [hsubmitted, htaken, ih]
    | @take σ' m rest marks idle message routed =>
      obtain ⟨hingress, htaken, hsubmitted⟩ := (routed_of_route routed).queue
      have htaken' : Log.taken (.taken m :: marks) = [m] := congrArg (m :: ·) htaken
      have hsubmitted' : Log.submitted (.taken m :: marks) = [] := hsubmitted
      simp [htaken', hsubmitted', hingress, ih, message]
    | @takeFails m rest v idle message failed =>
      have htaken : Log.taken [.taken m] = [m] := rfl
      have hsubmitted : Log.submitted [.taken m] = [] := rfl
      simp [htaken, hsubmitted, ih, message]
    | @acknowledge client phase =>
      cases client <;> exact hquiet rfl rfl rfl
    | work post step =>
      apply hquiet
      · apply List.filterMap_eq_nil_iff.2
        intro mark hmark
        have hnot := (step.unrouted mark hmark).2
        cases mark <;> first | rfl | exact absurd rfl (hnot _)
      · exact taken_of_unrouted fun mark hmark => (step.unrouted mark hmark).1
      · rfl
    | _ => exact hquiet rfl rfl rfl

end

end Vigil.Traffic

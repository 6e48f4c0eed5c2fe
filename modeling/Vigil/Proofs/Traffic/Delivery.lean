import Vigil.Proofs.Traffic.Batch

/-!
# Delivery

What the registry delivers to a worker is folded in the order in which it was submitted, and nothing
is lost or doubled on the way. A worker that is stopped leaves unread what was waiting in its
mailbox at that moment, one report at most.
-/

namespace Vigil.Traffic

section

variable {s : Settings} {σ σ' : State} {log marks : Log} {machine : String} {serial : Nat}
variable {p : Post} {hd : Handle}

theorem Change.marks_length_le {p? p?' : Option Post} (h : Change s serial p? marks p?') :
    marks.length ≤ 1 := by
  cases h <;> simp

/-- The registry delivers what it is waiting to deliver. -/
theorem Step.phase_of_delivered {r : Report} (h : Step s σ marks σ')
    (hmark : .delivered serial r ∈ marks) : ∃ machine, σ.phase = .delivering serial machine r := by
  cases h with
  | deliver phase post running room =>
    rw [List.mem_singleton] at hmark
    cases hmark
    exact ⟨_, phase⟩
  | take idle message routed =>
    cases routed_of_route routed <;> simp at hmark
  | work post step => exact nomatch (step.unrouted _ hmark).1
  | @acknowledge client phase => cases client <;> simp at hmark
  | _ => simp [State.dismiss] at hmark

/-- After the signal to stop nothing is delivered any more. -/
theorem Run.undelivered (h : Run s log σ) (serial : Nat) :
    Silent Mark.delivered? serial (Log.about serial log) := by
  induction h with
  | start =>
    intro before after hsplit
    simp [Log.about] at hsplit
  | @step log σ marks σ' hrun running step ih =>
    rw [Log.about_append]
    rcases hmarks : Log.about serial marks with _ | ⟨mark, _ | ⟨other, rest⟩⟩
    · rwa [List.append_nil]
    · apply ih.append
      intro htold
      have hmark : mark ∈ Log.about serial marks := by simp [hmarks]
      obtain ⟨hmem, hserial⟩ := List.mem_filter.1 hmark
      cases mark with
      | delivered target r =>
        obtain ⟨machine, hphase⟩ := step.phase_of_delivered hmem
        have htarget := hrun.ledger.target target machine r hphase
        have huntold := (hrun.ledger.accounted machine _ htarget).untold
        have hsame : target = serial := by simpa [Mark.serial?] using hserial
        rw [hsame] at huntold
        exact absurd (List.mem_filter.1 htold).1 huntold
      | _ => rfl
    · have hlength := (step.change hrun.known serial).marks_length_le
      rw [hmarks] at hlength
      simp at hlength

/-- A worker that the registry holds: the reports that it has got since its machine was registered
are those that it has folded and then those that are waiting for it. -/
structure LiveSpec (log : Log) (σ : State) (machine : String) (serial : Nat) (p : Post) : Prop where
  name_eq : p.tended.probe.name = machine
  unstopped : p.stopping = false
  routed : ∃ i, RegisteredAt (submissions log.taken) machine i ∧
    reportsOf machine (log.taken.drop i) =
      (log.about serial).delivered ++ (log.about serial).refused ++ σ.inFlight serial
  folded : p.ended = false →
    (log.about serial).delivered = (log.about serial).folded ++ reportsIn p.mailbox ∧
      (log.about serial).refused = []

theorem Run.live (h : Run s log σ) (hhandle : σ.handles machine = some hd) :
    ∃ p, σ.posts[hd.serial]? = some p ∧ LiveSpec log σ machine hd.serial p := by
  have hpost := List.getElem?_eq_getElem (h.known machine hd hhandle)
  obtain ⟨-, hstarted, huntold, hrouted⟩ := h.ledger.accounted machine hd hhandle
  have hstory := h.story hd.serial
  rw [hpost] at hstory
  refine ⟨_, hpost, ?_, ?_, hrouted, ?_⟩
  · exact hstory.name_eq (List.mem_filter.2 ⟨hstarted, by simp [Mark.serial?]⟩)
  · apply Bool.eq_false_iff.2
    intro hstopping
    exact huntold (List.mem_filter.1 (hstory.stop.told_iff.1 hstopping)).1
  · intro running
    obtain ⟨hunread, hrefused⟩ := hstory.mail.running running
    refine ⟨?_, hrefused⟩
    rw [hstory.mail.delivered_eq, hunread, List.append_nil]

/-- A worker from its start on, whether it is still held by the registry or not. -/
structure PostSpec (log : Log) (serial : Nat) (p : Post) : Prop where
  mail : MailSpec (log.about serial) p
  history_eq : ∃ ops, p.tended.probe.history = History.empty.after ops ∧
    History.stored ops = (log.about serial).folded.reverse
  unfolded : Silent Mark.folded? serial (log.about serial)
  undelivered : Silent Mark.delivered? serial (log.about serial)
  reason : p.ended = true → .stopped serial ∈ log ∨ p.tended.probe.lost = true

theorem Run.post (h : Run s log σ) (hpost : σ.posts[serial]? = some p) :
    PostSpec log serial p := by
  have hstory := h.story serial
  rw [hpost] at hstory
  obtain ⟨htold, hsilent, hreason⟩ := hstory.stop
  refine ⟨hstory.mail, hstory.history_eq, hsilent, h.undelivered serial, fun ended => ?_⟩
  rcases hreason ended with hstopping | hlost
  · exact .inl (List.mem_filter.1 (htold.1 hstopping)).1
  · exact .inr hlost

end

/-- From the ingress to the histories each report keeps its place. -/
structure DeliverySpec (log : Log) (σ : State) : Prop where
  queue : log.submitted = log.taken ++ σ.ingress
  live : ∀ machine hd, σ.handles machine = some hd →
    ∃ p, σ.posts[hd.serial]? = some p ∧ LiveSpec log σ machine hd.serial p
  post : ∀ serial p, σ.posts[serial]? = some p → PostSpec log serial p

/-! ## Batches -/

def servicesOf (machine : String) (xs : List Submission) : List (Roster String) :=
  xs.filterMap fun
    | .report other services => if other = machine then some services else none
    | .delete _ => none

theorem services_reportsOf (machine : String) (messages : List Message) :
    (reportsOf machine messages).map Report.services = servicesOf machine (submissions messages) := by
  rw [reportsOf, servicesOf, submissions, List.map_filterMap, List.filterMap_map]
  congr 1
  funext m
  cases hm : m.submission with
  | report other services =>
    by_cases hother : other = machine <;> simp [hm, hother]
  | delete other => simp [hm]

/-- The worker of a machine that waits for nothing has folded all that the machine has reported
since it was registered. -/
theorem Mirrors.folded {s : Settings} {log : Log} {σ : State} {now : Nat} {names : List String}
    {probe? : String → Option Probe} (hmirrors : Mirrors now names probe? (fun _ => none) .idle σ)
    (h : Run s log σ) {machine : String} {p : Probe} (hp : probe? machine = some p)
    (alive : p.lost = false) :
    ∃ serial i, σ.posts[serial]? = some (.holding now p none) ∧
      RegisteredAt (submissions log.taken) machine i ∧
        reportsOf machine (log.taken.drop i) = (Log.about serial log).folded := by
  obtain ⟨-, serial, hhandle, hpost⟩ := hmirrors.held machine p hp
  obtain ⟨post, hpost', hlive⟩ := h.live hhandle
  rw [hpost] at hpost'
  cases hpost'
  obtain ⟨hdelivered, hrefused⟩ := hlive.folded alive
  obtain ⟨i, hi, hreports⟩ := hlive.routed
  have hempty : reportsIn (Post.holding now p none).mailbox = [] := by
    simp [Post.holding, reportsIn]
  have hflight : σ.inFlight serial = [] := inFlight_of_idle hmirrors.phase_eq serial
  refine ⟨serial, i, hpost, hi, ?_⟩
  rw [hreports, hdelivered, hrefused, hflight, hempty]
  simp

/-- The probe of a machine has folded all that the machine has reported since it was registered. -/
theorem folded_of_course {s : Settings} {dashboard : Bool} {now : Nat} {xs : List Submission}
    {r : Registry} {alerts : List Alert} (h : Registry.Course s dashboard now xs r alerts)
    {machine : String} {p : Probe} (hp : r.probes.find? machine = some p) (alive : p.lost = false) :
    ∃ i ops, RegisteredAt xs machine i ∧ p.history = History.empty.after ops ∧
      ((History.stored ops).map Report.services).reverse = servicesOf machine (xs.drop i) := by
  obtain ⟨-, _, ⟨log, σ, hrun, hmirrors, rfl, -⟩, -⟩ := reached_of_course h
  obtain ⟨serial, i, hpost, hi, hfolded⟩ := hmirrors.folded hrun hp alive
  obtain ⟨ops, hhistory, hstored⟩ := (hrun.post hpost).history_eq
  refine ⟨i, ops, hi, hhistory, ?_⟩
  rw [hstored, List.map_reverse, List.reverse_reverse, ← hfolded, services_reportsOf, submissions,
    submissions, List.map_drop]

/-- Reports are delivered one after the other, whether the workers go their own ways or take turns
with the registry. -/
theorem delivery_in_order (s : Settings) :
    (∀ log σ, Run s log σ → DeliverySpec log σ) ∧
      ∀ dashboard now xs r alerts, Registry.Course s dashboard now xs r alerts →
        ∀ machine p, r.probes.find? machine = some p → p.lost = false →
          ∃ i ops, RegisteredAt xs machine i ∧ p.history = History.empty.after ops ∧
            ((History.stored ops).map Report.services).reverse = servicesOf machine (xs.drop i) := by
  constructor
  · intro log σ h
    exact ⟨h.queue, fun machine hd hhandle => h.live hhandle, fun serial p hpost => h.post hpost⟩
  · intro dashboard now xs r alerts h machine p hp alive
    exact folded_of_course h hp alive

/-- The first of two reports is folded while the second is waiting. -/
theorem delivery_in_order_of_two_reports :
    (∃ (s : Settings) (log : Log) (σ : State) (p : Post), Run s log σ ∧ DeliverySpec log σ ∧
      σ.handles "web" = some ⟨"web", 0⟩ ∧ σ.posts[0]? = some p ∧
        (log.about 0).folded.map Report.timestamp = [1] ∧
          (reportsIn p.mailbox).map Report.timestamp = [2]) ∧
      ∃ (s : Settings) (xs : List Submission) (r : Registry) (alerts : List Alert) (p : Probe),
        Registry.Course s false 0 xs r alerts ∧ r.probes.find? "web" = some p ∧
          ∃ i ops, RegisteredAt xs "web" i ∧ p.history = History.empty.after ops ∧
            ((History.stored ops).map Report.services).reverse = servicesOf "web" (xs.drop i) := by
  let s : Settings := ⟨⟨1000⟩, ⟨1, 1, 1⟩, none, 0⟩
  let services : Roster String := .ofList [("db", "pass")]
  constructor
  · have hsubmitted := ((Run.start (s := s) 0).step rfl
      (.submit ⟨1, .report "web" services⟩ nofun (by decide))).step rfl
      (.submit ⟨2, .report "web" services⟩ nofun (by decide))
    have hdelivered := (hsubmitted.step rfl (.take rfl rfl rfl)).step rfl (.deliver rfl rfl rfl rfl)
    let post : Post := ⟨⟨.start s "web" 0 .empty, 0⟩, [.report "web" ⟨1, services⟩], false, false⟩
    have hfold : WorkerStep s 0 0 post _ _ := .report ⟨rfl, rfl, rfl⟩ rfl rfl
    have htaken := (hdelivered.step rfl (.work rfl hfold)).step rfl (.take rfl rfl rfl)
    have h := htaken.step rfl (.deliver rfl rfl rfl rfl)
    exact ⟨s, _, _, _, h, (delivery_in_order s).1 _ _ h, rfl, rfl, rfl, rfl⟩
  · have h : Registry.Course s false 0 _ _ _ :=
      .ingest (.start 0) [.report "web" services, .report "web" services]
    obtain ⟨p, hp, alive⟩ := Option.map_eq_some_iff.1 (by decide +kernel :
      ((Registry.ingest 0 [.report "web" services, .report "web" services]
        (.start s false 0)).1.probes.find? "web").map Probe.lost = some false)
    exact ⟨s, _, _, _, p, h, hp, (delivery_in_order s).2 _ _ _ _ _ h "web" p hp alive⟩

end Vigil.Traffic

import Vigil.Proofs.Traffic.Batch

/-!
# Registration order

Whatever messages the registry takes, and whoever does what in between, its list shows the machines
that have reported since they were last deleted, in the order of the first of these reports. So does
every snapshot.
-/

namespace Vigil.Traffic

def Mark.snapshot? : Mark → Option Snapshot
  | .answered _ (.snapshot snapshot) | .published snapshot => some snapshot
  | _ => none

/-- Each snapshot that has been given lists the machines that were live at that moment. -/
def Shown (log : Log) : Prop :=
  ∀ before mark after snapshot, log = before ++ mark :: after →
    Mark.snapshot? mark = some snapshot →
      ListingSpec (submissions (Log.taken before)) (snapshot.probes.map Summary.name)

section

variable {s : Settings} {σ σ' : State} {log marks : Log}

theorem Shown.append (h : Shown log)
    (hmarks : ∀ before mark after snapshot, marks = before ++ mark :: after →
      mark.snapshot? = some snapshot →
        ListingSpec (submissions (log ++ before).taken) (snapshot.probes.map Summary.name)) :
    Shown (log ++ marks) := by
  intro before mark after snapshot hsplit hsnapshot
  rcases Log.split_append hsplit with ⟨first, rfl, hfirst⟩ | ⟨rest, hlog, -⟩
  · exact hmarks first mark after snapshot hfirst hsnapshot
  · exact h before mark rest snapshot hlog hsnapshot

theorem Shown.quiet (h : Shown log) (hmarks : ∀ mark ∈ marks, mark.snapshot? = none) :
    Shown (log ++ marks) := by
  apply h.append
  intro before mark after snapshot hsplit hsnapshot
  have hnone := hmarks mark (by simp [hsplit])
  rw [hnone] at hsnapshot
  cases hsnapshot

theorem WorkerStep.snapshot?_eq_none {now serial : Nat} {p p' : Post}
    (h : WorkerStep s now serial p marks p') : ∀ mark ∈ marks, mark.snapshot? = none := by
  cases h with
  | leave running reason =>
    intro mark hmark
    rcases List.mem_cons.1 hmark with rfl | hmark
    · rfl
    · obtain ⟨c, -, rfl⟩ := List.mem_map.1 hmark
      rfl
  | _ => simp [Mark.snapshot?]

theorem Routed.snapshot?_eq_none {m : Message} (h : Routed s m σ σ' marks) :
    ∀ mark ∈ marks, mark.snapshot? = none := by
  cases h <;> simp [Mark.snapshot?]

theorem Run.names_snapshot (h : Run s log σ) :
    σ.snapshot.probes.map Summary.name = σ.order := by
  have hshow : ∀ machine ∈ σ.order, (do
      let hd ← σ.handles machine
      let p ← σ.posts[hd.serial]?
      return (⟨hd.name, p.tended.probe.shown⟩ : Summary)).map Summary.name = some machine := by
    intro machine hmachine
    obtain ⟨hd, hhandle⟩ := Option.isSome_iff_exists.1 ((h.ledger.keys machine).1 hmachine)
    have hpost := List.getElem?_eq_getElem (h.known machine hd hhandle)
    have hname := (h.ledger.accounted machine hd hhandle).name_eq
    simp [hhandle, hpost, hname]
  rw [State.snapshot, List.map_filterMap, List.filterMap_congr hshow, List.filterMap_some]

theorem Run.listing (h : Run s log σ) (running : σ.phase.isOpen = true) :
    ListingSpec (submissions log.taken) σ.order := by
  rw [h.ledger.order_eq running]
  exact listing_spec _

theorem Run.shown (h : Run s log σ) : Shown log := by
  induction h with
  | start =>
    intro before mark after snapshot hsplit
    simp at hsplit
  | @step log σ marks σ' hrun running step ih =>
    have hidle : σ.phase = .idle →
        ListingSpec (submissions log.taken) (σ.snapshot.probes.map Summary.name) := by
      intro idle
      rw [hrun.names_snapshot]
      exact hrun.listing (by rw [idle]; rfl)
    cases step with
    | snapshot idle silent command =>
      apply ih.append
      intro before mark after snapshot hsplit hsnapshot
      rcases before with _ | ⟨first, _ | ⟨second, before⟩⟩
      · cases hsplit
        cases hsnapshot
      · cases hsplit
        cases hsnapshot
        simpa [Log.taken] using hidle idle
      · simp at hsplit
    | publish idle silent quiet =>
      apply ih.append
      intro before mark after snapshot hsplit hsnapshot
      rcases before with _ | ⟨first, before⟩
      · cases hsplit
        cases hsnapshot
        simpa using hidle idle
      · simp at hsplit
    | take idle message routed =>
      apply ih.quiet
      simpa [Mark.snapshot?] using (routed_of_route routed).snapshot?_eq_none
    | work post step => exact ih.quiet step.snapshot?_eq_none
    | @acknowledge client phase => cases client <;> exact ih.quiet (by simp [Mark.snapshot?])
    | _ => exact ih.quiet (by simp [Mark.snapshot?, State.dismiss])

/-- The deletion of a machine that is not registered only takes the message. -/
theorem Step.take_unknown {m : Message} {machine : String} {rest : List Message}
    (h : Step s σ (.taken m :: marks) σ') (message : m.submission = .delete machine)
    (unregistered : σ.handles machine = none) (first : σ.ingress = m :: rest) :
    σ' = { σ with ingress := rest } ∧ marks = [] := by
  generalize hall : Mark.taken m :: marks = all at h
  cases h with
  | @take σ' m' rest' marks' idle message' routed =>
    cases hall
    rw [first] at message'
    cases message'
    cases routed_of_route routed with
    | unknown => exact ⟨rfl, rfl⟩
    | delete message' registered =>
      cases message.symm.trans message'
      rw [unregistered] at registered
      cases registered
    | report message' | first message' => cases message.symm.trans message'
  | @takeFails m' rest' v idle message' failed =>
    obtain ⟨_, _, hroute, -⟩ := exists_routed s m' { σ with ingress := rest' }
    rw [failed] at hroute
    cases hroute
  | work post step => exact nomatch (step.unrouted (.taken m) (by simp [← hall])).1
  | @acknowledge client => cases client <;> cases hall
  | _ => cases hall

/-- The list of machines and the handles of their workers are kept in step, and snapshots list the
machines that have reported since they were last deleted in the order of their registration. -/
structure OrderSpec (s : Settings) (log : Log) (σ : State) : Prop where
  nodup : σ.order.Nodup
  keys : ∀ machine, machine ∈ σ.order ↔ (σ.handles machine).isSome
  taken : log.taken <+: log.submitted
  listed : σ.phase.isOpen = true →
    ListingSpec (submissions log.taken) (σ.snapshot.probes.map Summary.name)
  shown : Shown log
  unknown : ∀ m machine rest marks σ', m.submission = .delete machine →
    σ.handles machine = none → σ.ingress = m :: rest → Step s σ (.taken m :: marks) σ' →
      σ' = { σ with ingress := rest } ∧ marks = []

theorem Run.nodup (h : Run s log σ) : σ.order.Nodup := by
  cases hphase : σ.phase.isOpen with
  | true => exact (h.listing hphase).nodup
  | false =>
    rw [h.ledger.closed hphase]
    exact List.nodup_nil

end

/-! ## Batches -/

theorem names_of_course {s : Settings} {dashboard : Bool} {now : Nat} {xs : List Submission}
    {r : Registry} {alerts : List Alert} (h : Registry.Course s dashboard now xs r alerts) :
    r.probes.names = listing xs ∧ r.snapshot.probes.map Summary.name = r.probes.names := by
  obtain ⟨-, _, ⟨log, σ, hrun, hmirrors, rfl, -⟩, -⟩ := reached_of_course h
  constructor
  · rw [← hmirrors.order_eq]
    exact hrun.ledger.order_eq (by rw [hmirrors.phase_eq]; rfl)
  · rw [Registry.snapshot, Roster.values, Roster.names, List.map_map, List.map_map]
    apply List.map_congr_left
    intro e he
    exact name_of_course h (Roster.find?_of_mem he)

/-- The registry lists the machines in the order of their registration, whether its workers go
their own ways or take turns with it. -/
theorem registration_order (s : Settings) :
    (∀ log σ, Run s log σ → OrderSpec s log σ) ∧
      ∀ dashboard now xs r alerts, Registry.Course s dashboard now xs r alerts →
        ListingSpec xs (r.snapshot.probes.map Summary.name) ∧
          ∀ machine, r.probes.find? machine = none → (r.ingest now [.delete machine]).1 = r := by
  constructor
  · intro log σ h
    refine ⟨h.nodup, h.ledger.keys, ?_, ?_, h.shown, ?_⟩
    · rw [h.queue]
      exact List.prefix_append _ _
    · intro running
      rw [h.names_snapshot]
      exact h.listing running
    · intro m machine rest marks σ' message unregistered first step
      exact step.take_unknown message unregistered first
  · intro dashboard now xs r alerts h
    obtain ⟨hlisting, hnames⟩ := names_of_course h
    constructor
    · rw [hnames, hlisting]
      exact listing_spec xs
    · intro machine hp
      rw [Registry.ingest_delete, hp]

/-- A machine that is deleted and reports again stands last. -/
theorem registration_order_of_return :
    ∃ (s : Settings) (log : Log) (σ : State) (xs : List Submission) (r : Registry)
      (alerts : List Alert),
      Run s log σ ∧ OrderSpec s log σ ∧ σ.order = ["mail", "web"] ∧
      Registry.Course s false 0 xs r alerts ∧
        ListingSpec xs (r.snapshot.probes.map Summary.name) ∧
          r.snapshot.probes.map Summary.name = ["mail", "web"] := by
  let s : Settings := ⟨⟨1000⟩, ⟨1, 1, 1⟩, none, 0⟩
  let services : Roster String := .ofList [("db", "pass")]
  have h : Registry.Course s false 0 _ _ _ := .ingest (.start 0)
    [.report "web" services, .report "mail" services, .delete "web", .report "web" services]
  obtain ⟨-, _, ⟨log, σ, hrun, hmirrors, -, -⟩, -⟩ := reached_of_course h
  refine ⟨s, log, σ, _, _, _, hrun, (registration_order s).1 log σ hrun, ?_, h,
    ((registration_order s).2 _ _ _ _ _ h).1, by decide +kernel⟩
  rw [hmirrors.order_eq]
  decide +kernel

end Vigil.Traffic

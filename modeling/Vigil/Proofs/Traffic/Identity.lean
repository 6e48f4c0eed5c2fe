import Vigil.Proofs.Traffic.Delivery
import Vigil.Proofs.Traffic.Moves

/-!
# Identities

The registry would abort the program if it registered a machine twice, and so would a worker that
found the report of another machine in its mailbox. Neither ever comes about: the worker that is
held for a machine bears its name, and whatever lies in the mailbox of a worker is meant for it,
however often machines are deleted and registered again.
-/

namespace Vigil.Traffic

def Letter.MeantFor (machine : String) : Letter → Prop
  | .report other _ => other = machine
  | .query _ => True

def Post.Addressed (p : Post) : Prop :=
  ∀ letter ∈ p.mailbox, letter.MeantFor p.tended.probe.name

section

variable {s : Settings} {σ σ' : State} {log marks : Log} {machine : String} {serial : Nat}
variable {p p' : Post}

/-! ## Mailboxes -/

/-- A worker brings no letter into its own mailbox, and keeps its name. -/
theorem WorkerStep.addressed {now : Nat} (h : WorkerStep s now serial p marks p')
    (addressed : p.Addressed) : p'.Addressed := by
  cases h with
  | report serving letter own => exact fun _ hletter => addressed _ (List.mem_of_mem_tail hletter)
  | query serving letter =>
    intro letter' hletter
    apply addressed
    rw [letter]
    exact List.mem_cons_of_mem _ hletter
  | @tick instant serving empty due past =>
    have hname := Probe.name_serve (s := s)
      (p := { p.tended.probe with deadline := instant }) serving.alive .tick
    intro letter hletter
    have hmeant := addressed letter hletter
    rw [← hname] at hmeant
    exact hmeant
  | leave running reason => exact fun _ hletter => nomatch hletter
  | trim pending => exact addressed

theorem Post.Addressed.put {letter : Letter} (h : p.Addressed)
    (hletter : letter.MeantFor p.tended.probe.name) : (p.put letter).Addressed := by
  intro letter' hletter'
  rcases List.mem_append.1 hletter' with hletter' | hletter'
  · exact h letter' hletter'
  · rw [List.mem_singleton.1 hletter']
    exact hletter

/-- Whatever lies in the mailbox of a worker is meant for it. -/
theorem Run.addressed (h : Run s log σ) (hpost : σ.posts[serial]? = some p) : p.Addressed := by
  induction h generalizing p with
  | start => simp [State.start] at hpost
  | @step log σ marks σ' hrun running step ih =>
    have hmove := step.move hpost
    generalize hbefore : σ.posts[serial]? = p? at hmove
    cases hmove with
    | rest p => exact ih hbefore
    | start machine =>
      intro letter hletter
      cases hletter
    | @deliver q machine r phase =>
      obtain ⟨q', hq', hlive⟩ := hrun.live (hrun.ledger.target serial machine r phase)
      cases hbefore.symm.trans hq'
      exact (ih hbefore).put hlive.name_eq.symm
    | ask asking => exact (ih hbefore).put trivial
    | tell p =>
      have haddressed := ih hbefore
      exact haddressed
    | work step => exact step.addressed (ih hbefore)

/-! ## Violations -/

theorem Run.sound (h : Run s log σ) : σ.violation = none := by
  induction h with
  | start => rfl
  | @step log σ marks σ' hrun running step ih =>
    cases step with
    | take idle message routed => cases routed_of_route routed <;> exact running
    | @takeFails m rest v idle message failed =>
      obtain ⟨_, _, hroute, -⟩ := exists_routed s m { σ with ingress := rest }
      rw [failed] at hroute
      cases hroute
    | @workFails _ p machine r rest post serving letter foreign =>
      have hmem : .report machine r ∈ p.mailbox := by
        rw [letter]
        exact List.mem_cons_self
      exact absurd (hrun.addressed post _ hmem) foreign
    | _ => exact running

/-- A machine is registered only if it is not. -/
theorem Step.unregistered (h : Step s σ marks σ') (hmark : .registered machine serial ∈ marks) :
    σ.handles machine = none := by
  cases h with
  | take idle message routed =>
    cases routed_of_route routed with
    | first message unregistered =>
      simp at hmark
      rw [hmark.1]
      exact unregistered
    | _ => simp at hmark
  | work post step => exact nomatch (step.unrouted _ hmark).1
  | @acknowledge client phase => cases client <;> simp at hmark
  | _ => simp [State.dismiss] at hmark

/-- No check that aborts the program fails, and none is going to. -/
structure SoundSpec (s : Settings) (σ : State) : Prop where
  sound : σ.violation = none
  handles : ∀ machine hd, σ.handles machine = some hd →
    hd.name = machine ∧ ∃ p, σ.posts[hd.serial]? = some p ∧ p.tended.probe.name = machine
  letters : ∀ p ∈ σ.posts, ∀ machine r, .report machine r ∈ p.mailbox →
    machine = p.tended.probe.name
  routes : ∀ m, ∃ out, σ.route s m = .ok out
  fresh : ∀ marks σ' machine serial, Step s σ marks σ' → .registered machine serial ∈ marks →
    σ.handles machine = none
  onward : ∀ marks σ', Step s σ marks σ' → σ'.violation = none

theorem Run.soundSpec (h : Run s log σ) : SoundSpec s σ where
  sound := h.sound
  handles := by
    intro machine hd hhandle
    obtain ⟨p, hpost, hlive⟩ := h.live hhandle
    exact ⟨(h.ledger.accounted machine hd hhandle).name_eq, p, hpost, hlive.name_eq⟩
  letters := by
    intro p hp machine r hletter
    obtain ⟨serial, hpost⟩ := List.getElem?_of_mem hp
    exact h.addressed hpost _ hletter
  routes := by
    intro m
    obtain ⟨σ', marks, hroute, -⟩ := exists_routed s m σ
    exact ⟨_, hroute⟩
  fresh := fun _ _ _ _ step hmark => step.unregistered hmark
  onward := fun _ _ step => (h.step h.sound step).sound

end

/-- Whatever clients, registry and workers do, and in whatever order, the program is not aborted.
The registry that takes turns with its probes keeps each of them under its own name. -/
theorem no_violation (s : Settings) :
    (∀ log σ, Run s log σ → SoundSpec s σ) ∧
      ∀ dashboard now xs r alerts, Registry.Course s dashboard now xs r alerts →
        ∀ machine p, r.probes.find? machine = some p → p.name = machine := by
  constructor
  · exact fun log σ h => h.soundSpec
  · intro dashboard now xs r alerts h machine p hp
    exact name_of_course h hp

/-- A machine that is deleted and reports again is given a new worker of its name. -/
theorem no_violation_of_return :
    (∃ (s : Settings) (log : Log) (σ : State) (p : Post), Run s log σ ∧ SoundSpec s σ ∧
      σ.handles "web" = some ⟨"web", 1⟩ ∧ σ.posts[1]? = some p ∧
        p.mailbox = [.report "web" ⟨3, .ofList [("db", "pass")]⟩] ∧ p.tended.probe.name = "web") ∧
      ∃ (s : Settings) (xs : List Submission) (r : Registry) (alerts : List Alert) (p : Probe),
        Registry.Course s false 0 xs r alerts ∧ r.probes.find? "web" = some p ∧ p.name = "web" := by
  let s : Settings := ⟨⟨1000⟩, ⟨1, 1, 1⟩, none, 0⟩
  let services : Roster String := .ofList [("db", "pass")]
  constructor
  · have hsubmitted := (((Run.start (s := s) 0).step rfl
      (.submit ⟨1, .report "web" services⟩ nofun (by decide))).step rfl
      (.submit ⟨2, .delete "web"⟩ nofun (by decide))).step rfl
      (.submit ⟨3, .report "web" services⟩ nofun (by decide))
    have hdelivered := (hsubmitted.step rfl (.take rfl rfl rfl)).step rfl (.deliver rfl rfl rfl rfl)
    have htold := hdelivered.step rfl (.take rfl rfl rfl)
    let post : Post := ⟨⟨.start s "web" 0 .empty, 0⟩, [.report "web" ⟨1, services⟩], true, false⟩
    have hleave : WorkerStep s 0 0 post _ _ := .leave rfl (.inl rfl)
    have hreleased := (htold.step rfl (.work rfl hleave)).step rfl (.release rfl rfl rfl)
    have h := (hreleased.step rfl (.take rfl rfl rfl)).step rfl (.deliver rfl rfl rfl rfl)
    exact ⟨s, _, _, _, h, (no_violation s).1 _ _ h, rfl, rfl, rfl, rfl⟩
  · have h : Registry.Course s false 0 _ _ _ :=
      .ingest (.start 0) [.report "web" services, .delete "web", .report "web" services]
    obtain ⟨p, hp⟩ := Option.isSome_iff_exists.1 (by decide +kernel :
      ((Registry.ingest 0 [.report "web" services, .delete "web", .report "web" services]
        (.start s false 0)).1.probes.find? "web").isSome = true)
    exact ⟨s, _, _, _, p, h, hp, (no_violation s).2 _ _ _ _ _ h "web" p hp⟩

end Vigil.Traffic

import Vigil.Proofs.Probe.Course

/-!
# Trims in the background

A report that leaves a history too long asks for a trim, which runs some time later. Until then more
reports can come in, and more trims can be asked for. The history is never longer than its cap by
more than the number of trims that are still to run, and nothing that a probe says or does depends
on when they run.
-/

namespace Vigil.Probe

variable {s : Settings} {start p q : Probe} {record : Record}

/-! ## Probes that differ in old entries only -/

def withHistory (history : History) (p : Probe) : Probe :=
  { p with history := history }

/-- Two probes that differ in nothing but the entries before the latest one. -/
structure Alike (p q : Probe) : Prop where
  rest : q = p.withHistory q.history
  head : q.history.head? = p.history.head?

theorem Alike.refl (p : Probe) : Alike p p :=
  ⟨rfl, rfl⟩

theorem Alike.symm (h : Alike p q) : Alike q p where
  rest := by
    rw [h.rest]
    rfl
  head := h.head.symm

theorem Alike.trans {r : Probe} (hpq : Alike p q) (hqr : Alike q r) : Alike p r where
  rest := by
    rw [hqr.rest, hpq.rest]
    rfl
  head := hqr.head.trans hpq.head

theorem Alike.trim (p : Probe) : Alike p p.trim :=
  ⟨rfl, History.head?_trim p.history⟩

theorem countTo_withHistory (now limit : Nat) (history : History) (p : Probe) :
    (p.withHistory history).countTo now limit =
      ((p.countTo now limit).1.withHistory history, (p.countTo now limit).2) := by
  unfold countTo
  dsimp only
  by_cases h : limit ≤ p.count.counter
  · have h' : limit ≤ (p.withHistory history).count.counter := h
    rw [if_pos h, if_pos h']
    rfl
  · have h' : ¬limit ≤ (p.withHistory history).count.counter := h
    rw [if_neg h, if_neg h']
    rfl

theorem step_withHistory (t : Thresholds) (now : Nat) (history : History) (p : Probe) :
    (p.withHistory history).step t now =
      ((p.step t now).1.withHistory history, (p.step t now).2) := by
  have hrung : (p.withHistory history).rung = p.rung := rfl
  have hclimb : (p.withHistory history).climb = p.climb.withHistory history := rfl
  unfold step
  rw [hrung]
  cases p.rung with
  | normal =>
    simp only [hclimb, countTo_withHistory]
    rfl
  | degraded => exact countTo_withHistory now t.toFailed history p
  | failed | alertedLow =>
    simp only [countTo_withHistory]
    rfl
  | alertedHigh => rfl

/-- A tick neither looks at the history nor touches it. -/
theorem tick_withHistory (s : Settings) (history : History) (p : Probe) :
    (p.withHistory history).tick s = ((p.tick s).1.withHistory history, (p.tick s).2) := by
  unfold tick
  have hlost : (p.withHistory history).lost = p.lost := rfl
  rw [hlost]
  split
  · rfl
  · have hdeadline : (p.withHistory history).deadline = p.deadline := rfl
    simp only [hdeadline, step_withHistory]
    rfl

theorem tick_history (s : Settings) (p : Probe) : (p.tick s).1.history = p.history := by
  cases hlost : p.lost with
  | true => simp [tick, hlost]
  | false => exact history_tick hlost

/-- What a report says of the services depends on the latest entry before it alone. -/
theorem evaluations_storeReport (t : Thresholds) (timestamp : Int) (services : Roster String)
    (h : Alike p q) :
    (q.storeReport timestamp services).evaluations t =
      (p.storeReport timestamp services).evaluations t := by
  have hname : q.name = p.name := by rw [h.rest]; rfl
  have hentry : Entry.next q.history.head? timestamp services =
      Entry.next p.history.head? timestamp services := by rw [h.head]
  unfold evaluations storeReport History.store
  simp only [History.head?, List.head?_cons, hname]
  simp only [History.head?] at hentry
  rw [hentry]

/-- Probes that are alike say the same when they serve the same act, and stay alike. -/
theorem Alike.serve (h : Alike p q) (a : Act) :
    Alike (p.serve s a).1 (q.serve s a).1 ∧ (q.serve s a).2 = (p.serve s a).2 := by
  cases a with
  | report now r =>
    have hevents := evaluations_storeReport s.thresholds r.timestamp r.services h
    have hname : q.name = p.name := by rw [h.rest]; rfl
    have hrung : q.rung = p.rung := by rw [h.rest]; rfl
    refine ⟨⟨?_, ?_⟩, ?_⟩
    · rw [Probe.serve, Probe.serve, fold, fold, h.rest]
      rfl
    · exact congrArg (fun e => some (Entry.next e r.timestamp r.services)) h.head
    · simp only [Probe.serve, fold, hevents, hname, hrung]
  | tick =>
    have htick : q.tick s = ((p.tick s).1.withHistory q.history, (p.tick s).2) := by
      rw [← tick_withHistory, ← h.rest]
    rw [Probe.serve, Probe.serve, htick]
    refine ⟨⟨rfl, ?_⟩, rfl⟩
    rw [tick_history]
    exact h.head
  | query => exact ⟨h, rfl⟩

/-! ## Interleavings -/

/-- A probe, and the number of trims that its history has still to undergo. -/
structure Tended where
  probe : Probe
  trims : Nat

def Act.isReport : Act → Bool
  | .report _ _ => true
  | .tick | .query => false

def Act.isQuery : Act → Bool
  | .query => true
  | .report _ _ | .tick => false

namespace Tended

/-- The probe after an act, and what the act gives rise to. A report that leaves the history too
long asks for one more trim. -/
def serve (s : Settings) (t : Tended) (a : Act) : Tended × List Event :=
  let (p, events) := t.probe.serve s a
  (⟨p, if a.isReport && p.history.needsTrim then t.trims + 1 else t.trims⟩, events)

def trim (t : Tended) : Tended :=
  ⟨t.probe.trim, t.trims - 1⟩

theorem size_serve_le (s : Settings) {t : Tended} (a : Act)
    (h : t.probe.history.size ≤ t.probe.history.cap + t.trims) :
    (t.serve s a).1.probe.history.size ≤
      (t.serve s a).1.probe.history.cap + (t.serve s a).1.trims := by
  cases a with
  | report now r =>
    have hsize : (t.probe.fold s now r.timestamp r.services).1.history.size =
        t.probe.history.size + 1 := rfl
    have hcap : (t.probe.fold s now r.timestamp r.services).1.history.cap =
        t.probe.history.cap := rfl
    cases needed : (t.probe.fold s now r.timestamp r.services).1.history.needsTrim with
    | false =>
      have hfits := History.fits_iff.1 needed
      simp only [serve, Probe.serve, Act.isReport, needed]
      omega
    | true =>
      simp only [serve, Probe.serve, Act.isReport, needed]
      simp only [Bool.and_self, if_true]
      omega
  | tick =>
    simp only [serve, Probe.serve, Act.isReport, tick_history]
    exact h
  | query => exact h

/-- After a report a probe is where it would be if it trimmed its history at once, or else the trim
that takes it there is still to run. -/
theorem serve_report (s : Settings) (now : Nat) (r : Report) (p : Probe) :
    ((⟨p, 0⟩ : Tended).serve s (.report now r)).1 =
        ⟨(p.report s now r.timestamp r.services).1, 0⟩ ∨
      ((⟨p, 0⟩ : Tended).serve s (.report now r)).1.trims = 1 ∧
        ((⟨p, 0⟩ : Tended).serve s (.report now r)).1.trim =
          ⟨(p.report s now r.timestamp r.services).1, 0⟩ := by
  cases needed : (p.fold s now r.timestamp r.services).1.history.needsTrim with
  | false =>
    left
    have htrim : (p.fold s now r.timestamp r.services).1.trim =
        (p.fold s now r.timestamp r.services).1 :=
      congrArg (fun history => withHistory history (p.fold s now r.timestamp r.services).1)
        (History.trim_of_fits needed)
    have hreport : (p.report s now r.timestamp r.services).1 =
        (p.fold s now r.timestamp r.services).1 := htrim
    rw [hreport]
    simp [serve, Probe.serve, needed]
  | true =>
    right
    simp only [serve, Probe.serve, Act.isReport, needed]
    exact ⟨rfl, rfl⟩

theorem size_trim_le (t : Tended) :
    t.trim.probe.history.size ≤ t.trim.probe.history.cap + t.trim.trims :=
  Nat.le_trans (History.size_trim_le t.probe.history) (Nat.le_add_right _ _)

end Tended

/-- The ways in which a probe can serve acts and undergo the trims that they ask for. -/
inductive Interleaving (s : Settings) (start : Probe) : Record → Tended → Prop where
  | start : Interleaving s start [] ⟨start, 0⟩
  | serve {record t} (a : Act) (alive : t.probe.lost = false) (h : Interleaving s start record t) :
      Interleaving s start ((a, (t.serve s a).2) :: record) (t.serve s a).1
  | trim {record t} (pending : 0 < t.trims) (h : Interleaving s start record t) :
      Interleaving s start record t.trim

section Interleavings

variable {t : Tended}

theorem Interleaving.course (h : Interleaving s start record t) :
    Course s start record t.probe := by
  induction h with
  | start => exact .start
  | serve a alive _ ih => exact ih.serve a alive
  | trim _ _ ih => exact ih.trim

theorem Interleaving.size_le (h : Interleaving s start record t)
    (hstart : start.history.size ≤ start.history.cap) :
    t.probe.history.size ≤ t.probe.history.cap + t.trims := by
  induction h with
  | start => exact hstart
  | serve a _ _ ih => exact Tended.size_serve_le s a ih
  | trim _ _ _ => exact Tended.size_trim_le _

/-! ## Whenever the trims run -/

/-- The entries of a record that are no queries. -/
def Record.unasked (record : Record) : Record :=
  record.filter fun e => !e.1.isQuery

/-- The probe after some acts, of which the latest is the first, if its history is never trimmed. -/
def untrimmed (s : Settings) (start : Probe) : List Act → Probe
  | [] => start
  | a :: acts => ((untrimmed s start acts).serve s a).1

def untrimmedRecord (s : Settings) (start : Probe) : List Act → Record
  | [] => []
  | a :: acts => (a, ((untrimmed s start acts).serve s a).2) :: untrimmedRecord s start acts

/-- An interleaving leads to the same as its acts without trims and queries, old entries aside. -/
theorem Interleaving.alike_untrimmed (h : Interleaving s start record t) {start' : Probe}
    (hstart : Alike start' start) :
    record.unasked = untrimmedRecord s start' (record.unasked.map Prod.fst) ∧
      Alike (untrimmed s start' (record.unasked.map Prod.fst)) t.probe := by
  induction h with
  | start => exact ⟨rfl, hstart⟩
  | @serve record t a alive _ ih =>
    obtain ⟨hrecord, halike⟩ := ih
    cases hquery : a.isQuery with
    | true =>
      have ha : a = .query := by
        cases a with
        | query => rfl
        | report now r => cases hquery
        | tick => cases hquery
      subst ha
      exact ⟨hrecord, halike⟩
    | false =>
      have hunasked : Record.unasked ((a, (t.serve s a).2) :: record) =
          (a, (t.serve s a).2) :: record.unasked :=
        List.filter_cons_of_pos (by rw [hquery]; rfl)
      obtain ⟨hserve, hevents⟩ := halike.serve (s := s) a
      rw [hunasked]
      refine ⟨?_, hserve⟩
      rw [List.map_cons, untrimmedRecord, ← hrecord, ← hevents]
      rfl
  | trim _ _ ih => exact ⟨ih.1, ih.2.trans (Alike.trim _)⟩

/-- A probe that watches a machine from the instant `now` on with a history of the given cap, after
the acts of a record and some of the trims that they asked for. -/
structure TrimmingSpec (s : Settings) (machine : String) (now cap : Nat) (record : Record)
    (t : Tended) : Prop where
  bounded : t.probe.history.size ≤ max 1 cap + t.trims
  settled : t.trims = 0 → t.probe.history.size ≤ max 1 cap
  nonempty : record.reports ≠ [] → 1 ≤ t.probe.history.size
  latest : ∀ r earlier, record.reports = r :: earlier →
    ∃ e, t.probe.history.head? = some e ∧ e.Shows r earlier
  /-- The same acts say the same and lead to the same probe, old entries aside, whenever the trims
  run and whoever asks in between. -/
  undisturbed : ∀ cap' record' t',
    Interleaving s (.start s machine now (.withCap cap')) record' t' →
    record'.unasked.map Prod.fst = record.unasked.map Prod.fst →
    record'.unasked = record.unasked ∧ t'.probe = t.probe.withHistory t'.probe.history

/-- However the trims are delayed, the history is bounded and nobody notices them. -/
theorem trims_unnoticed {machine : String} {now cap : Nat}
    (h : Interleaving s (.start s machine now (.withCap cap)) record t) :
    TrimmingSpec s machine now cap record t := by
  obtain ⟨ops, hops, hstored⟩ := h.course.history_eq
  have hafter : t.probe.history = (History.withCap cap).after ops := hops
  have hcap : t.probe.history.cap = max 1 cap := by
    rw [hafter]
    exact History.cap_after _ ops
  have hbounded : t.probe.history.size ≤ max 1 cap + t.trims := by
    rw [← hcap]
    exact h.size_le (Nat.zero_le _)
  have hlatest : ∀ r earlier, record.reports = r :: earlier →
      ∃ e, t.probe.history.head? = some e ∧ e.Shows r earlier := by
    intro r earlier hr
    refine ⟨_, ?_, History.shows_head_unabridged r earlier⟩
    rw [hafter, History.head?_after, hstored, hr, History.unabridged_cons]
    rfl
  refine ⟨hbounded, ?_, ?_, hlatest, ?_⟩
  · intro hnone
    rwa [hnone] at hbounded
  · intro hreported
    obtain ⟨r, earlier, hr⟩ := List.exists_cons_of_ne_nil hreported
    obtain ⟨e, he, -⟩ := hlatest r earlier hr
    obtain ⟨rest, hentries⟩ := List.head?_eq_some_iff.1 he
    rw [History.size, hentries, List.length_cons]
    exact Nat.le_add_left 1 _
  · intro cap' record' t' h' hacts
    obtain ⟨hrecord, halike⟩ := h.alike_untrimmed (Alike.refl _)
    have hstart : Alike (.start s machine now (.withCap cap))
        (.start s machine now (.withCap cap')) := ⟨rfl, rfl⟩
    obtain ⟨hrecord', halike'⟩ := h'.alike_untrimmed hstart
    rw [hacts] at hrecord' halike'
    exact ⟨hrecord'.trans hrecord.symm, (halike.symm.trans halike').rest⟩

/-- Three reports reach the bound while the two trims that they ask for are still to run. -/
theorem trims_unnoticed_of_three_reports :
    ∃ (s : Settings) (record : Record) (t : Tended),
      Interleaving s (.start s "web" 0 (.withCap 1)) record t ∧
      TrimmingSpec s "web" 0 1 record t ∧ t.trims = 2 ∧ t.probe.history.size = 3 := by
  let s : Settings := ⟨⟨1000⟩, ⟨1, 1, 1⟩, none, 0⟩
  let report (n : Nat) : Act := .report n ⟨n, .ofList [("db", "fail")]⟩
  have hstart : Interleaving s (.start s "web" 0 (.withCap 1)) [] _ := .start
  have hfirst := hstart.serve (report 100) (by decide +kernel)
  have hsecond := hfirst.serve (report 200) (by decide +kernel)
  have h := hsecond.serve (report 300) (by decide +kernel)
  exact ⟨s, _, _, h, trims_unnoticed h, by decide +kernel, by decide +kernel⟩

end Interleavings

end Vigil.Probe

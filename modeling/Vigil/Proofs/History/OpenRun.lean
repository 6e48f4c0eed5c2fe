import Vigil.Proofs.History.Unabridged

/-!
# Open runs

A run of a service that goes on in the latest entry is open. Whatever trims have come before, the
history still holds as many entries of an open run as there is room for in its cap, and their counts
go down by one from each of them to the one before.
-/

namespace Vigil

/-! ## Parts of a run -/

section

variable {state : ServiceState} {k : Nat}

theorem isIn_of_lt_streak {statuses : List (Option String)} (h : k < streak state statuses) :
    ∃ raw, statuses[k]? = some (some raw) ∧ namedState raw = state := by
  induction statuses generalizing k with
  | nil => cases h
  | cons status rest ih =>
    rw [streak_cons] at h
    split at h
    · rename_i hin
      cases k with
      | zero =>
        cases status with
        | none => cases hin
        | some raw => exact ⟨raw, rfl, isIn_some.1 hin⟩
      | succ k =>
        obtain ⟨raw, hraw, hnamed⟩ := ih (Nat.lt_of_succ_lt_succ h)
        exact ⟨raw, hraw, hnamed⟩
    · cases h

/-- What is left of a run when its latest reports are taken away. -/
theorem streak_drop {statuses : List (Option String)} (h : k ≤ streak state statuses) :
    streak state (statuses.drop k) = streak state statuses - k := by
  induction k generalizing statuses with
  | zero => rfl
  | succ k ih =>
    cases statuses with
    | nil => cases h
    | cons status rest =>
      rw [streak_cons] at h ⊢
      split at h
      · rename_i hin
        rw [if_pos hin, List.drop_succ_cons, ih (Nat.le_of_succ_le_succ h), Nat.add_sub_add_right]
      · cases h

end

namespace History

variable {service : String} {o : Observation} {h : History}

def observed (service : String) (entries : List Entry) (i : Nat) : Option Observation :=
  entries[i]?.bind (·.services.find? service)

theorem observed_unabridged (service : String) (reports : List Report) (i : Nat) :
    observed service (unabridged reports) i =
      (statuses service reports)[i]?.join.map fun raw =>
        expectedObservation raw ((statuses service reports).drop i) := by
  have hdrop : statuses service (reports.drop i) = (statuses service reports).drop i :=
    List.map_drop
  rw [observed, ← List.head?_drop, drop_unabridged, find?_head?_unabridged, hdrop, List.head?_drop]

/-- The entries of a run come one after the other, and their counts go down by one. -/
theorem observed_run {reports : List Report} {i k : Nat}
    (ho : observed service (unabridged reports) i = some o) (hopen : o.state ≠ .pass)
    (hk : k < o.count) :
    observed service (unabridged reports) (i + k) = some ⟨o.state, o.count - k⟩ := by
  rw [observed_unabridged] at ho
  obtain ⟨raw, -, rfl⟩ := Option.map_eq_some_iff.1 ho
  rw [state_expectedObservation] at hopen
  rw [expectedObservation_of_ne_pass rfl hopen] at hk ⊢
  obtain ⟨raw', hraw', hnamed⟩ := isIn_of_lt_streak hk
  rw [List.getElem?_drop] at hraw'
  rw [observed_unabridged, hraw', Option.join_some, Option.map_some,
    expectedObservation_of_ne_pass hnamed hopen, ← List.drop_drop, streak_drop (Nat.le_of_lt hk)]

theorem count_pos_of_observed {reports : List Report} {i : Nat}
    (ho : observed service (unabridged reports) i = some o) (hopen : o.state ≠ .pass) :
    0 < o.count := by
  rw [observed_unabridged] at ho
  obtain ⟨raw, hraw, rfl⟩ := Option.map_eq_some_iff.1 ho
  rw [state_expectedObservation] at hopen
  have hget : (statuses service reports)[i]? = some (some raw) := Option.join_eq_some_iff.1 hraw
  obtain ⟨hi, heq⟩ := List.getElem?_eq_some_iff.1 hget
  rw [expectedObservation_of_ne_pass rfl hopen, List.drop_eq_getElem_cons hi, heq, streak_cons,
    if_pos (isIn_some.2 rfl)]
  exact Nat.succ_pos _

/-! ## Stores -/

/-- There are as many entries as an open run of a service has reports, as far as the cap allows. -/
def HoldsRun (service : String) (h : History) : Prop :=
  ∀ o, h.head?.bind (·.services.find? service) = some o → o.state ≠ .pass →
    min o.count h.cap ≤ h.size

theorem state_observe (previous : Option Observation) (raw : String) :
    (observe previous raw).state = reportedState raw := by
  simp only [observe]

/-- A run is a single report long, or one longer than it was before. -/
theorem observe_of_ne_pass {previous : Option Observation} {raw : String}
    (ho : observe previous raw = o) (hopen : o.state ≠ .pass) :
    o.count = 1 ∨ ∃ p, previous = some p ∧ p.state = o.state ∧ o.count = p.count + 1 := by
  subst ho
  rw [state_observe] at hopen ⊢
  have hstate : (reportedState raw).isPass = false := by
    cases hs : reportedState raw with
    | pass => exact absurd hs hopen
    | warn | fail => rfl
  cases previous with
  | none => simp [observe, hstate]
  | some p =>
    by_cases hp : p.state = reportedState raw
    · right
      exact ⟨p, rfl, hp, by simp [observe, hstate, hp]⟩
    · left
      simp [observe, hstate, hp]

theorem HoldsRun.store (holds : HoldsRun service h) (timestamp : Int) (services : Roster String) :
    HoldsRun service (h.store timestamp services) := by
  intro o ho hopen
  have hsize : (h.store timestamp services).size = h.size + 1 := List.length_cons
  have hcap : (h.store timestamp services).cap = h.cap := rfl
  rw [History.store, head?, List.head?_cons, Option.bind_some, Entry.next, Roster.find?_map] at ho
  obtain ⟨raw, -, hobserve⟩ := Option.map_eq_some_iff.1 ho
  rw [hsize, hcap]
  rcases observe_of_ne_pass hobserve hopen with hone | ⟨p, hp, hstate, hcount⟩
  · omega
  · have hfits := holds p hp (hstate ▸ hopen)
    omega

/-! ## Trims -/

theorem allPass_of_open {e : Entry} (ho : e.services.find? service = some o)
    (hopen : o.state ≠ .pass) : e.allPass = false := by
  rw [Entry.allPass, List.all_eq_false]
  refine ⟨o, Roster.mem_values_of_find? ho, ?_⟩
  cases hs : o.state with
  | pass => exact absurd hs hopen
  | warn | fail => nofun

theorem count_le_longestRun {e : Entry} (ho : e.services.find? service = some o) :
    o.count ≤ e.longestRun := by
  have hmem : o.count ∈ e.services.values.map (·.count) :=
    List.mem_map_of_mem (Roster.mem_values_of_find? ho)
  rw [Entry.longestRun, List.foldl_max]
  have hle := List.le_max?_getD_of_mem (k := 0) hmem
  omega

/-- A trim that is needed while a run is open keeps the longest run of the latest entry, as far as
the cap allows. -/
theorem trimPlan_of_open {e : Entry} {es : List Entry} (he : h.entries = e :: es)
    (failing : e.allPass = false) (needed : h.needsTrim = true) :
    h.trimPlan.1 = min e.longestRun h.cap := by
  have hcap : ¬h.cap ≤ 0 := Nat.not_le_of_lt h.cap_pos
  simp [trimPlan, needed, he, List.findIdx?_cons, failing, hcap]

/-- The room that a cap leaves for a run is not taken by a trim, whichever run the trim goes by. -/
theorem HoldsRun.trim (holds : HoldsRun service h) : HoldsRun service h.trim.1 := by
  intro o ho hopen
  change min o.count h.cap ≤ _
  rw [head?_trim] at ho
  have fits := holds o ho hopen
  cases needed : h.needsTrim with
  | false => rwa [trim_of_fits needed]
  | true =>
    obtain ⟨e, he, ho⟩ := Option.bind_eq_some_iff.1 ho
    obtain ⟨es, hes⟩ := List.head?_eq_some_iff.1 he
    have hrun := count_le_longestRun ho
    have hkept : h.trim.1.size = min (min e.longestRun h.cap) h.size := by
      rw [← trimPlan_of_open hes (allPass_of_open ho hopen) needed]
      exact List.length_take
    omega

/-! ## Histories after any operations -/

theorem holdsRun_after (service : String) (cap : Nat) (ops : List Op) :
    HoldsRun service ((withCap cap).after ops) := by
  induction ops with
  | nil => nofun
  | cons op ops ih =>
    cases op with
    | store r => exact ih.store r.timestamp r.services
    | trim => exact ih.trim

/-- A history that holds an open run of a service as far as there is room for it: its latest entry
says `o` of the service. -/
structure OpenRunSpec (room : Nat) (reports : List Report) (service : String) (o : Observation)
    (h : History) : Prop where
  count_pos : 0 < o.count
  fits : min o.count room ≤ h.size
  /-- The latest entries of the untrimmed history are there. -/
  kept : (unabridged reports).take (min o.count room) <+: h.entries
  counts : ∀ i < min o.count room,
    observed service h.entries i = some ⟨o.state, o.count - i⟩

/-- An open run is not cut while it fits in the cap, whatever trims have come before. -/
theorem open_run_kept {cap : Nat} {ops : List Op} {service : String} {o : Observation}
    (latest : ((withCap cap).after ops).head?.bind (·.services.find? service) = some o)
    (hopen : o.state ≠ .pass) :
    OpenRunSpec (max 1 cap) (stored ops) service o ((withCap cap).after ops) := by
  have hcap : ((withCap cap).after ops).cap = max 1 cap := cap_after _ ops
  have hfits := holdsRun_after service cap ops o latest hopen
  have hprefix := isPrefix_entries_after cap ops
  have hfirst : observed service (unabridged (stored ops)) 0 = some o := by
    rw [head?_after] at latest
    rw [observed, ← List.head?_eq_getElem?]
    exact latest
  rw [hcap] at hfits
  refine ⟨count_pos_of_observed hfirst hopen, hfits, ?_, fun i hi => ?_⟩
  · have hlength := List.length_take_le (min o.count (max 1 cap)) (unabridged (stored ops))
    exact List.prefix_of_prefix_length_le (List.take_prefix _ _) hprefix
      (Nat.le_trans hlength hfits)
  · have hrun : observed service (unabridged (stored ops)) (0 + i) = _ :=
      observed_run hfirst hopen (Nat.lt_of_lt_of_le hi (Nat.min_le_left _ _))
    rw [Nat.zero_add] at hrun
    obtain ⟨older, holder⟩ := hprefix
    rw [← hrun, observed, observed, ← holder,
      List.getElem?_append_left (Nat.lt_of_lt_of_le hi hfits)]

/-- A run of three failures, of which the cap leaves room for two, outlasts the trims. -/
theorem open_run_kept_of_three_failures :
    let ops : List Op := [.trim, .store ⟨4, .ofList [("db", "fail"), ("web", "pass")]⟩,
      .store ⟨3, .ofList [("db", "fail"), ("web", "warn")]⟩, .trim,
      .store ⟨2, .ofList [("db", "fail")]⟩, .store ⟨1, .ofList [("db", "pass")]⟩]
    OpenRunSpec (max 1 2) (stored ops) "db" ⟨.fail, 3⟩ ((withCap 2).after ops) :=
  open_run_kept (by decide +kernel) nofun

end History

end Vigil

import Vigil.History
import Vigil.Roster.Lemmas

/-!
# The unabridged history

A trim forgets old entries and nothing else. Whatever trims a history has gone through, it is the
beginning of the history that was never trimmed, and every count in it is the length of a run of
reports. All lists of reports and of operations have the latest one first.
-/

namespace Vigil

/-- A report: when it came in, and what it says of each service. -/
structure Report where
  timestamp : Int
  services : Roster String

/-- The state that a text names, blanks around it aside; any other text stands for a failure. -/
def namedState (raw : String) : ServiceState :=
  if Text.trim raw = "pass" then .pass
  else if Text.trim raw = "warn" then .warn
  else .fail

def statuses (service : String) (reports : List Report) : List (Option String) :=
  reports.map (·.services.find? service)

def isIn (state : ServiceState) (status : Option String) : Bool :=
  status.map namedState == some state

/-- The number of statuses in a row, from the first one on, that name the given state. -/
def streak (state : ServiceState) (statuses : List (Option String)) : Nat :=
  (statuses.takeWhile (isIn state)).length

/-- The observation of a service whose latest status is the text `raw`. -/
def expectedObservation (raw : String) (statuses : List (Option String)) : Observation :=
  ⟨namedState raw, if namedState raw = .pass then 0 else streak (namedState raw) statuses⟩

@[simp] theorem state_expectedObservation (raw : String) (statuses : List (Option String)) :
    (expectedObservation raw statuses).state = namedState raw := by
  rw [expectedObservation]

/-- Outside of `pass` the count is the length of the run. -/
theorem expectedObservation_of_ne_pass {raw : String} {state : ServiceState}
    (h : namedState raw = state) (hp : state ≠ .pass) (statuses : List (Option String)) :
    expectedObservation raw statuses = ⟨state, streak state statuses⟩ := by
  rw [expectedObservation, h, if_neg hp]

/-! ## States and runs -/

theorem parse_eq (raw : String) :
    ServiceState.parse raw =
      if Text.trim raw ∈ ["pass", "warn", "fail"] then .ok (namedState raw)
      else .error (Text.trim raw) := by
  unfold ServiceState.parse ServiceState.ofName? namedState
  by_cases hp : Text.trim raw = "pass"
  · simp [hp, ServiceState.all, ServiceState.name]
  · by_cases hw : Text.trim raw = "warn"
    · simp [hw, ServiceState.all, ServiceState.name]
    · by_cases hf : Text.trim raw = "fail"
      · simp [hf, ServiceState.all, ServiceState.name]
      · simp [hp, hw, hf, Ne.symm hp, Ne.symm hw, Ne.symm hf, ServiceState.all, ServiceState.name]

theorem reportedState_eq_namedState (raw : String) : reportedState raw = namedState raw := by
  unfold reportedState
  rw [parse_eq]
  split
  · rename_i h
    split at h <;> simp_all
  · rename_i h
    split at h
    · cases h
    · rename_i hmem
      simp_all [namedState]

theorem streak_cons (state : ServiceState) (status : Option String) (rest : List (Option String)) :
    streak state (status :: rest) = if isIn state status then streak state rest + 1 else 0 := by
  unfold streak
  rw [List.takeWhile_cons]
  split <;> rfl

@[simp] theorem isIn_none (state : ServiceState) : isIn state none = false :=
  rfl

@[simp] theorem isIn_some {state : ServiceState} {raw : String} :
    isIn state (some raw) = true ↔ namedState raw = state := by
  simp [isIn]

theorem statuses_cons (service : String) (r : Report) (reports : List Report) :
    statuses service (r :: reports) = r.services.find? service :: statuses service reports :=
  rfl

/-- An observation is the expected one if the one before it is. -/
theorem observe_expected (raw : String) (rest : List (Option String)) :
    observe (rest.head?.join.map fun p => expectedObservation p rest) raw =
      expectedObservation raw (some raw :: rest) := by
  unfold observe expectedObservation
  rw [reportedState_eq_namedState]
  cases hs : namedState raw with
  | pass => simp [ServiceState.isPass]
  | warn | fail =>
    rw [streak_cons, if_pos (isIn_some.2 hs)]
    cases rest with
    | nil => simp [ServiceState.isPass, streak]
    | cons status rest =>
      rw [streak_cons]
      cases status with
      | none => simp [ServiceState.isPass]
      | some p => cases hp : namedState p <;> simp [hp, ServiceState.isPass, streak_cons]

/-- What an entry says is what a report says that follows the reports `earlier`. -/
structure Entry.Shows (e : Entry) (r : Report) (earlier : List Report) : Prop where
  timestamp : e.timestamp = r.timestamp
  names : e.services.names = r.services.names
  observed : ∀ service, e.services.find? service =
    (r.services.find? service).map fun raw =>
      expectedObservation raw (statuses service (r :: earlier))

namespace History

/-! ## Operations -/

inductive Op where
  | store (report : Report)
  | trim

def apply (h : History) : Op → History
  | .store r => h.store r.timestamp r.services
  | .trim => h.trim.1

def after (h : History) : List Op → History
  | [] => h
  | op :: ops => (h.after ops).apply op

def stored (ops : List Op) : List Report :=
  ops.filterMap fun
    | .store r => some r
    | .trim => none

/-- The entries of the history of some reports that is never trimmed. -/
def unabridged (reports : List Report) : List Entry :=
  (empty.after (reports.map .store)).entries

@[simp] theorem unabridged_nil : unabridged [] = [] :=
  rfl

theorem unabridged_cons (r : Report) (reports : List Report) :
    unabridged (r :: reports) =
      Entry.next (unabridged reports).head? r.timestamp r.services :: unabridged reports :=
  rfl

@[simp] theorem length_unabridged (reports : List Report) :
    (unabridged reports).length = reports.length := by
  induction reports with
  | nil => rfl
  | cons r reports ih => rw [unabridged_cons, List.length_cons, List.length_cons, ih]

/-! ## What the entries of an untrimmed history say -/

/-- What the latest entry says of a service is what the reports say of it. -/
theorem find?_head?_unabridged (service : String) (reports : List Report) :
    (unabridged reports).head?.bind (·.services.find? service) =
      (statuses service reports).head?.join.map fun raw =>
        expectedObservation raw (statuses service reports) := by
  induction reports with
  | nil => rfl
  | cons r reports ih =>
    rw [unabridged_cons, statuses_cons]
    simp only [List.head?_cons, Option.bind_some, Option.join_some]
    rw [Entry.next, Roster.find?_map, ih]
    cases r.services.find? service with
    | none => rw [Option.map_none, Option.map_none]
    | some raw => exact congrArg some (observe_expected raw _)

theorem drop_unabridged (i : Nat) (reports : List Report) :
    (unabridged reports).drop i = unabridged (reports.drop i) := by
  induction reports generalizing i with
  | nil => simp
  | cons r reports ih =>
    cases i with
    | zero => rfl
    | succ i => exact ih i

/-- The latest entry shows the latest report. -/
theorem shows_head_unabridged (r : Report) (reports : List Report) :
    (Entry.next (unabridged reports).head? r.timestamp r.services).Shows r reports where
  timestamp := rfl
  names := by
    dsimp only [Entry.next]
    rw [Roster.names_map]
  observed service := by
    have h := find?_head?_unabridged service (r :: reports)
    rw [unabridged_cons, statuses_cons] at h
    exact h

/-- Every entry shows the report it was made of. -/
theorem shows_unabridged {reports : List Report} {i : Nat} {r : Report}
    (h : reports[i]? = some r) :
    ∃ e, (unabridged reports)[i]? = some e ∧ e.Shows r (reports.drop (i + 1)) := by
  obtain ⟨hi, rfl⟩ := List.getElem?_eq_some_iff.1 h
  have hd : (unabridged reports).drop i = unabridged (reports[i] :: reports.drop (i + 1)) := by
    rw [drop_unabridged, List.drop_eq_getElem_cons hi]
  refine ⟨_, ?_, shows_head_unabridged reports[i] (reports.drop (i + 1))⟩
  rw [← List.head?_drop, hd]
  rfl

/-! ## Trims -/

theorem longestRun_pos (e : Entry) : 0 < e.longestRun :=
  Nat.lt_of_lt_of_le Nat.zero_lt_one (Nat.le_max_left 1 _)

/-- A trim keeps the latest entry. -/
theorem trimPlan_pos {h : History} (hne : h.entries ≠ []) : 0 < h.trimPlan.1 := by
  have hsize : 0 < h.entries.length := List.length_pos_iff.2 hne
  have hcap := h.cap_pos
  unfold trimPlan
  split
  · exact hsize
  · split
    · exact Nat.zero_lt_one
    · rename_i i _
      split
      · exact hcap
      · have hrun : 0 < (h.entries[i]?.map Entry.longestRun).getD 1 := by
          cases h.entries[i]? with
          | none => exact Nat.zero_lt_one
          | some e => exact longestRun_pos e
        exact Nat.lt_min.2 ⟨by omega, hcap⟩

theorem isPrefix_entries_trim (h : History) : h.trim.1.entries <+: h.entries :=
  List.take_prefix _ _

theorem head?_trim (h : History) : h.trim.1.head? = h.head? := by
  unfold head? trim
  cases he : h.entries with
  | nil => simp
  | cons e es =>
    have hpos : h.trimPlan.1 ≠ 0 := Nat.pos_iff_ne_zero.1 (trimPlan_pos (by simp [he]))
    simp [List.head?_take, hpos]

theorem trimPlan_of_fits {h : History} (fits : h.needsTrim = false) :
    h.trimPlan = (h.size, .untouched) := by
  simp [trimPlan, fits]

theorem trim_of_fits {h : History} (fits : h.needsTrim = false) : h.trim.1 = h := by
  have htake : h.entries.take h.size = h.entries := List.take_length
  rw [trim, trimPlan_of_fits fits, htake]

theorem fits_iff {h : History} : h.needsTrim = false ↔ h.size ≤ h.cap := by
  simp [needsTrim]

/-- A trim that is needed keeps no more entries than the cap allows. -/
theorem trimPlan_le_cap {h : History} (needed : h.needsTrim = true) : h.trimPlan.1 ≤ h.cap := by
  unfold trimPlan
  rw [if_neg (by simp [needed])]
  split
  · exact h.cap_pos
  · split
    · exact Nat.le_refl _
    · exact Nat.min_le_right _ _

theorem size_trim_le (h : History) : h.trim.1.size ≤ h.cap := by
  cases needed : h.needsTrim with
  | false =>
    rw [trim_of_fits needed]
    exact fits_iff.1 needed
  | true =>
    have hkept : h.trim.1.size ≤ h.trimPlan.1 := List.length_take_le _ _
    exact Nat.le_trans hkept (trimPlan_le_cap needed)

/-! ## Histories after any operations -/

theorem cap_after (h : History) (ops : List Op) : (h.after ops).cap = h.cap := by
  induction ops with
  | nil => rfl
  | cons op ops ih => cases op <;> exact ih

theorem head?_after (cap : Nat) (ops : List Op) :
    ((withCap cap).after ops).head? = (unabridged (stored ops)).head? := by
  induction ops with
  | nil => rfl
  | cons op ops ih =>
    cases op with
    | store r =>
      change some (Entry.next ((withCap cap).after ops).head? r.timestamp r.services) = _
      rw [ih]
      rfl
    | trim => exact (head?_trim _).trans ih

theorem isPrefix_entries_after (cap : Nat) (ops : List Op) :
    ((withCap cap).after ops).entries <+: unabridged (stored ops) := by
  induction ops with
  | nil => exact List.prefix_rfl
  | cons op ops ih =>
    cases op with
    | store r =>
      change Entry.next ((withCap cap).after ops).head? r.timestamp r.services ::
        ((withCap cap).after ops).entries <+: _
      rw [head?_after]
      exact List.prefix_cons_inj _ |>.2 ih
    | trim => exact (isPrefix_entries_trim _).trans ih

/-- A history of the given cap that some operations have led to, beside the one that the same
reports lead to without a trim. -/
structure AbridgedSpec (cap : Nat) (ops : List Op) (h : History) : Prop where
  cap_eq : h.cap = max 1 cap
  kept : h.entries <+: unabridged (stored ops)
  latest : ∀ r earlier, stored ops = r :: earlier →
    ∃ (e : Entry) (rest : List Entry), h.entries = e :: rest ∧ e.Shows r earlier
  size_unabridged : (unabridged (stored ops)).length = (stored ops).length
  /-- The counts of the untrimmed history are the lengths of runs. -/
  counts : ∀ i r, (stored ops)[i]? = some r →
    ∃ e : Entry, (unabridged (stored ops))[i]? = some e ∧ e.Shows r ((stored ops).drop (i + 1))
  /-- Other trims between the same reports lead to the same latest entry. -/
  undisturbed : ∀ cap' ops', stored ops' = stored ops →
    ((withCap cap').after ops').head? = h.head?

/-- A history is a faithful beginning of the unabridged one, whatever trims it has gone through. -/
theorem abridged_after (cap : Nat) (ops : List Op) :
    AbridgedSpec cap ops ((withCap cap).after ops) where
  cap_eq := cap_after _ ops
  kept := isPrefix_entries_after cap ops
  latest := by
    intro r earlier h
    have hhead := head?_after cap ops
    rw [h, unabridged_cons] at hhead
    obtain ⟨rest, hrest⟩ := List.head?_eq_some_iff.1 hhead
    exact ⟨_, rest, hrest, shows_head_unabridged r earlier⟩
  size_unabridged := length_unabridged _
  counts _ _ := shows_unabridged
  undisturbed := by
    intro cap' ops' h
    rw [head?_after, head?_after, h]

end History

end Vigil

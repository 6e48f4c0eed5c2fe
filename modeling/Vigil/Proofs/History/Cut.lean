import Vigil.Proofs.History.OpenRun

/-!
# Where a trim cuts

A history that is too long is cut to its latest entries: to a single one if all entries pass, to as
many as the cap allows if the first failing entry is beyond it, and else to the start of the longest
run that this entry records, as far as the cap allows. A trim reports which of these it has done.
-/

namespace Vigil

/-! ## Failing entries -/

/-- Some service does not pass. -/
def Entry.Failing (e : Entry) : Prop :=
  ∃ service o, e.services.find? service = some o ∧ o.state ≠ .pass

theorem ServiceState.isPass_iff {state : ServiceState} : state.isPass = true ↔ state = .pass := by
  cases state <;> simp [ServiceState.isPass]

theorem Entry.failing_iff {e : Entry} : e.Failing ↔ e.allPass = false := by
  constructor
  · rintro ⟨service, o, ho, hopen⟩
    exact History.allPass_of_open ho hopen
  · intro h
    obtain ⟨o, ho, hstate⟩ := List.all_eq_false.1 h
    obtain ⟨service, hservice⟩ := Roster.mem_values_iff.1 ho
    exact ⟨service, o, hservice, fun hpass => hstate (ServiceState.isPass_iff.2 hpass)⟩

/-- The entry number `i` is failing, and none of the later ones is. -/
structure FirstFailing (entries : List Entry) (i : Nat) (e : Entry) : Prop where
  here : entries[i]? = some e
  failing : e.Failing
  before : ∀ e' ∈ entries.take i, ¬e'.Failing

theorem findIdx?_of_passing {entries : List Entry} (h : ∀ e ∈ entries, ¬e.Failing) :
    entries.findIdx? (!·.allPass) = none := by
  rw [List.findIdx?_eq_none_iff]
  intro e he
  have hpass := h e he
  rw [Entry.failing_iff] at hpass
  simpa using hpass

theorem FirstFailing.findIdx?_eq {entries : List Entry} {i : Nat} {e : Entry}
    (h : FirstFailing entries i e) : entries.findIdx? (!·.allPass) = some i := by
  obtain ⟨hi, hget⟩ := List.getElem?_eq_some_iff.1 h.here
  rw [List.findIdx?_eq_some_iff_getElem]
  refine ⟨hi, ?_, fun j hj => ?_⟩
  · rw [hget, Entry.failing_iff.1 h.failing]
    rfl
  · have hmem : entries[j] ∈ entries.take i :=
      List.mem_take_iff_getElem.2 ⟨j, Nat.lt_min.2 ⟨hj, Nat.lt_trans hj hi⟩, rfl⟩
    have hpass := h.before _ hmem
    rw [Entry.failing_iff] at hpass
    simpa using hpass

namespace History

variable {h : History} {i : Nat} {e : Entry} {service : String} {o : Observation}

/-! ## The plan of a trim -/

theorem trimPlan_of_passing (long : h.cap < h.size) (passing : ∀ e ∈ h.entries, ¬e.Failing) :
    h.trimPlan = (1, .collapsedToHead) := by
  simp [trimPlan, needsTrim, long, findIdx?_of_passing passing]

theorem trimPlan_of_beyond (long : h.cap < h.size) (first : FirstFailing h.entries i e)
    (beyond : h.cap ≤ i) : h.trimPlan = (h.cap, .cutAtCap) := by
  simp [trimPlan, needsTrim, long, first.findIdx?_eq, beyond]

theorem trimPlan_of_failing (long : h.cap < h.size) (first : FirstFailing h.entries i e)
    (within : i < h.cap) :
    h.trimPlan = (min (i + e.longestRun) h.cap, .cutAtFailure (min (i + e.longestRun) h.cap)) := by
  have hkept : min (min (i + e.longestRun) h.cap) h.size = min (i + e.longestRun) h.cap :=
    Nat.min_eq_left (Nat.le_trans (Nat.min_le_right _ _) (Nat.le_of_lt long))
  simp [trimPlan, needsTrim, long, first.findIdx?_eq, Nat.not_le_of_lt within, first.here, hkept]

/-- As many entries are left as were planned. -/
theorem size_trim (long : h.cap < h.size) : h.trim.1.size = h.trimPlan.1 := by
  have needed : h.needsTrim = true := by simp [needsTrim, long]
  have hplan := trimPlan_le_cap needed
  have hsize : h.trim.1.size = min h.trimPlan.1 h.size := List.length_take
  omega

theorem observed_trim {j : Nat} (hj : j < h.trimPlan.1) :
    observed service h.trim.1.entries j = observed service h.entries j := by
  rw [observed, observed, trim, List.getElem?_take_of_lt hj]

/-! ## The runs of an entry -/

theorem observed_of_prefix {entries entries' : List Entry} (hinitial : entries <+: entries')
    {j : Nat} (hj : j < entries.length) :
    observed service entries j = observed service entries' j := by
  obtain ⟨older, rfl⟩ := hinitial
  rw [observed, observed, List.getElem?_append_left hj]

theorem count_of_pass {reports : List Report}
    (ho : observed service (unabridged reports) i = some o) (hpass : o.state = .pass) :
    o.count = 0 := by
  rw [observed_unabridged] at ho
  obtain ⟨raw, -, rfl⟩ := Option.map_eq_some_iff.1 ho
  rw [state_expectedObservation] at hpass
  rw [expectedObservation, if_pos hpass]

/-- The longest run that a failing entry records is that of some service that does not pass. -/
theorem exists_longestRun {reports : List Report} (he : (unabridged reports)[i]? = some e)
    (failing : e.Failing) :
    ∃ service o, e.services.find? service = some o ∧ o.state ≠ .pass ∧ o.count = e.longestRun := by
  have hobserved : ∀ service o, e.services.find? service = some o →
      observed service (unabridged reports) i = some o := by
    intro service o ho
    rw [observed, he]
    exact ho
  obtain ⟨service, o, ho, hopen⟩ := failing
  have hpos := count_pos_of_observed (hobserved service o ho) hopen
  have hcount : o.count ∈ e.services.values.map (·.count) :=
    List.mem_map_of_mem (Roster.mem_values_of_find? ho)
  obtain ⟨c, hc⟩ : ∃ c, (e.services.values.map (·.count)).max? = some c := by
    apply Option.ne_none_iff_exists'.1
    rw [ne_eq, List.max?_eq_none_iff]
    exact List.ne_nil_of_mem hcount
  have hle := List.le_max?_getD_of_mem (k := 0) hcount
  have hlongest : e.longestRun = c := by
    rw [Entry.longestRun, List.foldl_max, hc]
    rw [hc] at hle
    simp only [Option.getD_some] at hle ⊢
    omega
  obtain ⟨o', ho', rfl⟩ := List.mem_map.1 (List.max?_mem hc)
  obtain ⟨service', hservice'⟩ := Roster.mem_values_iff.1 ho'
  refine ⟨service', o', hservice', fun hpass => ?_, hlongest.symm⟩
  have hzero := count_of_pass (hobserved service' o' hservice') hpass
  rw [hc, Option.getD_some] at hle
  omega

/-! ## Histories after any operations -/

/-- A trim that goes by the failing entry number `i`. -/
structure FailureCut (room : Nat) (h : History) (i : Nat) : Prop where
  outcome : h.trim.2 = .cutAtFailure h.trim.1.size
  /-- The runs that the entry records are kept back to their starts, or as far as the cap. -/
  runs : ∀ service o, observed service h.entries i = some o → o.state ≠ .pass →
    0 < o.count ∧ min (i + o.count) room ≤ h.trim.1.size ∧
      ∀ k < o.count, i + k < room →
        observed service h.trim.1.entries (i + k) = some ⟨o.state, o.count - k⟩
  /-- Short of the cap, the oldest entry that is kept is the start of a longest run. -/
  oldest : h.trim.1.size < room → ∃ service o, observed service h.entries i = some o ∧
    o.state ≠ .pass ∧
    (∀ other o', observed other h.entries i = some o' → o'.count ≤ o.count) ∧
    h.trim.1.size = i + o.count ∧
    observed service h.trim.1.entries (i + o.count - 1) = some ⟨o.state, 1⟩

/-- A trim does what it reports. -/
structure CutSpec (room : Nat) (h : History) : Prop where
  untouched : h.size ≤ room → h.trim = (h, .untouched)
  /-- The latest entries are kept as they are, and a second trim finds nothing to do. -/
  kept : room < h.size → ∃ r, 1 ≤ r ∧ r ≤ room ∧ h.trim.1 = { h with entries := h.entries.take r } ∧
    h.trim.1.size = r ∧ h.trim.1.trim = (h.trim.1, .untouched)
  collapsed : room < h.size → (∀ e ∈ h.entries, ¬e.Failing) →
    h.trim.1.size = 1 ∧ h.trim.2 = .collapsedToHead
  capped : room < h.size → ∀ i e, FirstFailing h.entries i e → room ≤ i →
    h.trim.1.size = room ∧ h.trim.2 = .cutAtCap
  failed : room < h.size → ∀ i e, FirstFailing h.entries i e → i < room → FailureCut room h i

theorem trim_of_le (fits : h.size ≤ h.cap) : h.trim = (h, .untouched) := by
  have hfits := fits_iff.2 fits
  have houtcome : h.trim.2 = h.trimPlan.2 := rfl
  rw [trimPlan_of_fits hfits] at houtcome
  exact Prod.ext (trim_of_fits hfits) houtcome

theorem failureCut {reports : List Report} (hinitial : h.entries <+: unabridged reports)
    (long : h.cap < h.size) (first : FirstFailing h.entries i e) (within : i < h.cap) :
    FailureCut h.cap h i := by
  have hplan := trimPlan_of_failing long first within
  have hsize : h.trim.1.size = min (i + e.longestRun) h.cap := by rw [size_trim long, hplan]
  have hlength : h.size = h.entries.length := rfl
  have hfull : ∀ service j, j < h.cap →
      observed service h.entries j = observed service (unabridged reports) j :=
    fun service j hj => observed_of_prefix hinitial (by omega)
  have hentry : ∀ service, observed service h.entries i = e.services.find? service := by
    intro service
    rw [observed, first.here]
    rfl
  have hrun : ∀ service o, observed service h.entries i = some o → o.state ≠ .pass →
      ∀ k < o.count, i + k < h.cap →
        observed service h.trim.1.entries (i + k) = some ⟨o.state, o.count - k⟩ := by
    intro service o ho hopen k hk hroom
    have hlongest : o.count ≤ e.longestRun := count_le_longestRun ((hentry service).symm.trans ho)
    have hkept : i + k < h.trimPlan.1 := by
      rw [hplan]
      exact Nat.lt_min.2 ⟨by omega, hroom⟩
    rw [observed_trim hkept, hfull service (i + k) hroom]
    rw [hfull service i within] at ho
    exact observed_run ho hopen hk
  refine ⟨?_, fun service o ho hopen => ⟨?_, ?_, hrun service o ho hopen⟩, fun hshort => ?_⟩
  · rw [hsize]
    exact congrArg Prod.snd hplan
  · rw [hfull service i within] at ho
    exact count_pos_of_observed ho hopen
  · have hlongest : o.count ≤ e.longestRun := count_le_longestRun ((hentry service).symm.trans ho)
    omega
  · have hget : (unabridged reports)[i]? = some e := by
      obtain ⟨older, holder⟩ := hinitial
      rw [← holder, List.getElem?_append_left (by omega)]
      exact first.here
    obtain ⟨service, o, ho, hopen, hcount⟩ := exists_longestRun hget first.failing
    rw [← hentry] at ho
    have hpos : 0 < e.longestRun := longestRun_pos e
    refine ⟨service, o, ho, hopen, fun other o' ho' => ?_, by omega, ?_⟩
    · rw [hcount]
      exact count_le_longestRun ((hentry other).symm.trans ho')
    · have hstart := hrun service o ho hopen (o.count - 1) (by omega) (by omega)
      have hplace : i + (o.count - 1) = i + o.count - 1 := by omega
      have hone : o.count - (o.count - 1) = 1 := by omega
      rwa [hplace, hone] at hstart

/-- Whatever has been done to a history before, a trim cuts it where it says. -/
theorem trim_as_reported (cap : Nat) (ops : List Op) :
    CutSpec (max 1 cap) ((withCap cap).after ops) := by
  generalize hafter : (withCap cap).after ops = h
  have hcap : h.cap = max 1 cap := by
    rw [← hafter]
    exact cap_after _ ops
  have hinitial : h.entries <+: unabridged (stored ops) := by
    rw [← hafter]
    exact isPrefix_entries_after cap ops
  rw [← hcap]
  refine ⟨trim_of_le, fun long => ?_, fun long passing => ?_, fun long i e first beyond => ?_,
    fun long i e first within => failureCut hinitial long first within⟩
  · have needed : h.needsTrim = true := by simp [needsTrim, long]
    have hne : h.entries ≠ [] := by
      apply List.ne_nil_of_length_pos
      exact Nat.zero_lt_of_lt long
    exact ⟨h.trimPlan.1, trimPlan_pos hne, trimPlan_le_cap needed, rfl, size_trim long,
      trim_of_le (size_trim_le h)⟩
  · have hplan := trimPlan_of_passing long passing
    exact ⟨by rw [size_trim long, hplan], congrArg Prod.snd hplan⟩
  · have hplan := trimPlan_of_beyond long first beyond
    exact ⟨by rw [size_trim long, hplan], congrArg Prod.snd hplan⟩

end History

end Vigil

import Mathlib.Data.List.Induction
import Mathlib.Order.Bounds.Defs
import Vigil.Registry

/-!
# The list of machines

A machine is entered on the list at its first report and struck off when it is deleted; if it
reports again it stands last. The list therefore shows the machines that have reported since they
were last deleted, in the order of the first of these reports. Submissions are numbered from the
earliest on.
-/

namespace Vigil

/-- The list of machines after one more submission. -/
def enlist (names : List String) : Submission → List String
  | .report machine _ => if machine ∈ names then names else names ++ [machine]
  | .delete machine => names.filter (· ≠ machine)

theorem enlist_report_of_mem {names : List String} {machine : String} (h : machine ∈ names)
    (services : Roster String) : enlist names (.report machine services) = names :=
  if_pos h

theorem enlist_report_of_not_mem {names : List String} {machine : String} (h : machine ∉ names)
    (services : Roster String) : enlist names (.report machine services) = names ++ [machine] :=
  if_neg h

theorem enlist_delete_of_not_mem {names : List String} {machine : String} (h : machine ∉ names) :
    enlist names (.delete machine) = names := by
  apply List.filter_eq_self.2
  intro other hother
  rw [decide_eq_true_eq]
  rintro rfl
  exact h hother

/-- The list of machines after some submissions, the earliest of which is the first. -/
def listing (xs : List Submission) : List String :=
  xs.foldl enlist []

/-- The submission number `i` is a report of a machine that is not deleted afterwards. -/
def LiveAt (xs : List Submission) (machine : String) (i : Nat) : Prop :=
  (∃ services, xs[i]? = some (.report machine services)) ∧
    ∀ j, i < j → xs[j]? ≠ some (.delete machine)

/-- The submission number `i` is the first report of a machine since it was last deleted. -/
def RegisteredAt (xs : List Submission) (machine : String) (i : Nat) : Prop :=
  IsLeast {k | LiveAt xs machine k} i

section

variable {xs : List Submission} {machine other : String} {services : Roster String} {i : Nat}

theorem LiveAt.lt_length (h : LiveAt xs machine i) : i < xs.length := by
  obtain ⟨⟨services, hi⟩, -⟩ := h
  exact (List.getElem?_eq_some_iff.1 hi).1

theorem getElem?_append_singleton {x y : Submission} :
    (xs ++ [x])[i]? = some y ↔ xs[i]? = some y ∨ i = xs.length ∧ x = y := by
  rcases Nat.lt_or_ge i xs.length with hlt | hge
  · rw [List.getElem?_append_left hlt]
    constructor
    · exact .inl
    · rintro (h | ⟨rfl, -⟩)
      · exact h
      · exact absurd hlt (Nat.lt_irrefl _)
  · rw [List.getElem?_append_right hge, List.getElem?_singleton, List.getElem?_eq_none hge]
    split <;> simp <;> omega

theorem liveAt_append_report :
    LiveAt (xs ++ [.report other services]) machine i ↔
      LiveAt xs machine i ∨ machine = other ∧ i = xs.length := by
  have hdeletes : ∀ j : Nat,
      (xs ++ [Submission.report other services])[j]? = some (Submission.delete machine) ↔
        xs[j]? = some (Submission.delete machine) := by
    intro j
    simp [getElem?_append_singleton]
  constructor
  · rintro ⟨⟨services', hi⟩, hlater⟩
    simp only [ne_eq, hdeletes] at hlater
    rcases getElem?_append_singleton.1 hi with hi | ⟨hlength, hx⟩
    · exact .inl ⟨⟨services', hi⟩, hlater⟩
    · cases hx
      exact .inr ⟨rfl, hlength⟩
  · rintro (⟨⟨services', hi⟩, hlater⟩ | ⟨rfl, rfl⟩)
    · refine ⟨⟨services', getElem?_append_singleton.2 (.inl hi)⟩, ?_⟩
      simpa only [ne_eq, hdeletes] using hlater
    · refine ⟨⟨services, getElem?_append_singleton.2 (.inr ⟨rfl, rfl⟩)⟩, fun j hij => ?_⟩
      rw [ne_eq, hdeletes, List.getElem?_eq_none (Nat.le_of_lt hij)]
      simp

theorem liveAt_append_delete :
    LiveAt (xs ++ [.delete other]) machine i ↔ machine ≠ other ∧ LiveAt xs machine i := by
  have hreports : ∀ services,
      (xs ++ [Submission.delete other])[i]? = some (Submission.report machine services) ↔
        xs[i]? = some (Submission.report machine services) := by
    intro services
    simp [getElem?_append_singleton]
  constructor
  · rintro ⟨⟨services, hi⟩, hlater⟩
    have hi := (hreports services).1 hi
    have hlt := (List.getElem?_eq_some_iff.1 hi).1
    refine ⟨?_, ⟨services, hi⟩, fun j hij hj => ?_⟩
    · rintro rfl
      exact hlater xs.length hlt (getElem?_append_singleton.2 (.inr ⟨rfl, rfl⟩))
    · exact hlater j hij (getElem?_append_singleton.2 (.inl hj))
  · rintro ⟨hne, ⟨services, hi⟩, hlater⟩
    refine ⟨⟨services, (hreports services).2 hi⟩, fun j hij hj => ?_⟩
    rcases getElem?_append_singleton.1 hj with hj | ⟨-, hx⟩
    · exact hlater j hij hj
    · cases hx
      exact hne rfl

theorem RegisteredAt.unique {j : Nat} (h : RegisteredAt xs machine i)
    (h' : RegisteredAt xs machine j) : i = j :=
  Nat.le_antisymm (h.2 h'.1) (h'.2 h.1)

theorem RegisteredAt.append_report (h : RegisteredAt xs machine i) :
    RegisteredAt (xs ++ [.report other services]) machine i := by
  refine ⟨liveAt_append_report.2 (.inl h.1), fun k hk => ?_⟩
  rcases liveAt_append_report.1 hk with hk | ⟨-, rfl⟩
  · exact h.2 hk
  · exact Nat.le_of_lt h.1.lt_length

theorem registeredAt_append_report_of_not_live (services : Roster String)
    (h : ∀ k, ¬LiveAt xs machine k) :
    RegisteredAt (xs ++ [.report machine services]) machine xs.length := by
  refine ⟨liveAt_append_report.2 (.inr ⟨rfl, rfl⟩), fun k hk => ?_⟩
  rcases liveAt_append_report.1 hk with hk | ⟨-, rfl⟩
  · exact absurd hk (h k)
  · exact Nat.le_refl _

theorem RegisteredAt.append_delete (h : RegisteredAt xs machine i) (hne : machine ≠ other) :
    RegisteredAt (xs ++ [.delete other]) machine i :=
  ⟨liveAt_append_delete.2 ⟨hne, h.1⟩, fun _ hk => h.2 (liveAt_append_delete.1 hk).2⟩

end

/-- Exactly the machines that have reported since they were last deleted, each once, in the order of
the first of these reports. -/
structure ListingSpec (xs : List Submission) (names : List String) : Prop where
  nodup : names.Nodup
  mem_iff : ∀ machine, machine ∈ names ↔ ∃ i, LiveAt xs machine i
  registered : ∀ machine ∈ names, ∃ i, RegisteredAt xs machine i
  sorted : names.Pairwise fun machine other =>
    ∀ i j, RegisteredAt xs machine i → RegisteredAt xs other j → i < j

variable {xs : List Submission} {names : List String}

theorem ListingSpec.report (h : ListingSpec xs names) (machine : String)
    (services : Roster String) :
    ListingSpec (xs ++ [.report machine services]) (enlist names (.report machine services)) := by
  have hkept : ∀ other ∈ names, ∀ i, RegisteredAt (xs ++ [.report machine services]) other i →
      RegisteredAt xs other i := by
    intro other hother i hi
    obtain ⟨k, hk⟩ := h.registered other hother
    rw [hi.unique hk.append_report]
    exact hk
  have hsorted : names.Pairwise fun machine' other => ∀ i j,
      RegisteredAt (xs ++ [.report machine services]) machine' i →
      RegisteredAt (xs ++ [.report machine services]) other j → i < j := by
    apply h.sorted.imp_of_mem
    intro machine' other hmachine' hother hlt i j hi hj
    exact hlt i j (hkept machine' hmachine' i hi) (hkept other hother j hj)
  have hregistered : ∀ other ∈ names, ∃ i,
      RegisteredAt (xs ++ [.report machine services]) other i := by
    intro other hother
    obtain ⟨i, hi⟩ := h.registered other hother
    exact ⟨i, hi.append_report⟩
  by_cases hmem : machine ∈ names
  · rw [enlist_report_of_mem hmem]
    refine ⟨h.nodup, fun other => ?_, hregistered, hsorted⟩
    rw [h.mem_iff]
    constructor
    · rintro ⟨i, hi⟩
      exact ⟨i, liveAt_append_report.2 (.inl hi)⟩
    · rintro ⟨i, hi⟩
      rcases liveAt_append_report.1 hi with hi | ⟨rfl, -⟩
      · exact ⟨i, hi⟩
      · exact (h.mem_iff other).1 hmem
  · rw [enlist_report_of_not_mem hmem]
    have hnone : ∀ k, ¬LiveAt xs machine k := fun k hk => hmem ((h.mem_iff machine).2 ⟨k, hk⟩)
    have hnew := registeredAt_append_report_of_not_live services hnone
    refine ⟨?_, fun other => ?_, ?_, ?_⟩
    · apply List.nodup_append.2
      refine ⟨h.nodup, by simp, fun a ha b hb => ?_⟩
      rw [List.mem_singleton.1 hb]
      rintro rfl
      exact hmem ha
    · rw [List.mem_append, List.mem_singleton, h.mem_iff]
      constructor
      · rintro (⟨i, hi⟩ | rfl)
        · exact ⟨i, liveAt_append_report.2 (.inl hi)⟩
        · exact ⟨_, hnew.1⟩
      · rintro ⟨i, hi⟩
        rcases liveAt_append_report.1 hi with hi | ⟨hm, -⟩
        · exact .inl ⟨i, hi⟩
        · exact .inr hm
    · intro other hother
      rcases List.mem_append.1 hother with hother | hother
      · exact hregistered other hother
      · rw [List.mem_singleton.1 hother]
        exact ⟨_, hnew⟩
    · apply List.pairwise_append.2
      refine ⟨hsorted, List.pairwise_singleton _ _, ?_⟩
      intro other hother machine' hmachine' i j hi hj
      rw [List.mem_singleton.1 hmachine'] at hj
      rw [hj.unique hnew]
      exact (hkept other hother i hi).1.lt_length

theorem ListingSpec.delete (h : ListingSpec xs names) (machine : String) :
    ListingSpec (xs ++ [.delete machine]) (enlist names (.delete machine)) := by
  have hmem : ∀ other, other ∈ enlist names (.delete machine) ↔ other ∈ names ∧ other ≠ machine := by
    intro other
    simp [enlist]
  refine ⟨h.nodup.filter _, fun other => ?_, fun other hother => ?_, ?_⟩
  · rw [hmem, h.mem_iff]
    constructor
    · rintro ⟨⟨i, hi⟩, hne⟩
      exact ⟨i, liveAt_append_delete.2 ⟨hne, hi⟩⟩
    · rintro ⟨i, hi⟩
      obtain ⟨hne, hi⟩ := liveAt_append_delete.1 hi
      exact ⟨⟨i, hi⟩, hne⟩
  · obtain ⟨hother, hne⟩ := (hmem other).1 hother
    obtain ⟨i, hi⟩ := h.registered other hother
    exact ⟨i, hi.append_delete hne⟩
  · have hkept : ∀ other ∈ names, ∀ i, RegisteredAt (xs ++ [.delete machine]) other i →
        RegisteredAt xs other i := by
      intro other hother i hi
      obtain ⟨hne, -⟩ := liveAt_append_delete.1 hi.1
      obtain ⟨k, hk⟩ := h.registered other hother
      rw [hi.unique (hk.append_delete hne)]
      exact hk
    apply List.Pairwise.filter
    apply h.sorted.imp_of_mem
    intro machine' other hmachine' hother hlt i j hi hj
    exact hlt i j (hkept machine' hmachine' i hi) (hkept other hother j hj)

theorem listing_append_singleton (xs : List Submission) (x : Submission) :
    listing (xs ++ [x]) = enlist (listing xs) x := by
  simp [listing]

theorem listing_spec (xs : List Submission) : ListingSpec xs (listing xs) := by
  induction xs using List.reverseRecOn with
  | nil =>
    refine ⟨List.nodup_nil, fun machine => ?_, nofun, List.Pairwise.nil⟩
    simp [listing, LiveAt]
  | append_singleton xs x ih =>
    rw [listing_append_singleton]
    cases x with
    | report machine services => exact ih.report machine services
    | delete machine => exact ih.delete machine

end Vigil

import Vigil.Roster

/-!
# What a roster holds

Each operation on rosters, seen through `names` and through `find?`: the names stay in their order,
a new one comes last, and the value under one name changes without the others.
-/

namespace Vigil.Roster

variable {α β : Type}

/-! ## Names -/

theorem names_empty : (empty : Roster α).names = [] :=
  rfl

theorem nodup_names (r : Roster α) : r.names.Nodup :=
  r.distinct

theorem names_map (f : String → α → β) (r : Roster α) : (r.map f).names = r.names := by
  simp [names, map, Function.comp_def]

theorem names_modify (r : Roster α) (name : String) (f : α → α) :
    (r.modify name f).names = r.names :=
  names_map _ r

theorem names_erase (r : Roster α) (name : String) :
    (r.erase name).names = r.names.filter (· ≠ name) := by
  simp [names, erase, List.filter_map, Function.comp_def]

/-- A name is on the roster exactly if it is one of the names. -/
theorem contains_iff {r : Roster α} {name : String} : r.contains name = true ↔ name ∈ r.names := by
  constructor
  · intro h
    obtain ⟨a, ha⟩ := Option.isSome_iff_exists.1 h
    obtain ⟨before, after, hr, -⟩ := List.lookup_eq_some_iff.1 ha
    simp [names, hr]
  · intro h
    cases hf : r.find? name with
    | some a => simp [contains, hf]
    | none => exact absurd h (not_mem_of_find?_eq_none hf)

theorem find?_eq_none_iff {r : Roster α} {name : String} :
    r.find? name = none ↔ name ∉ r.names := by
  rw [← contains_iff]
  simp [contains]

/-- A name that is not on the roster is entered last; one that is keeps its place. -/
theorem names_insert (r : Roster α) (name : String) (a : α) :
    (r.insert name a).names = if r.contains name then r.names else r.names ++ [name] := by
  unfold insert
  split
  next b hb => simp [contains, hb, names_modify]
  next hb => simp [contains, hb, names, enter]

/-! ## Values -/

theorem find?_empty (name : String) : (empty : Roster α).find? name = none :=
  rfl

theorem lookup_map (f : String → α → β) (name : String) (es : List (String × α)) :
    (es.map fun e => (e.1, f e.1 e.2)).lookup name = (es.lookup name).map (f name) := by
  induction es with
  | nil => rfl
  | cons e es ih =>
    obtain ⟨n, a⟩ := e
    by_cases h : name = n
    · simp [h]
    · simp [List.lookup_cons, beq_false_of_ne h, ih]

theorem find?_map (f : String → α → β) (r : Roster α) (name : String) :
    (r.map f).find? name = (r.find? name).map (f name) :=
  lookup_map f name r.entries

theorem map_map {γ : Type} (f : String → α → β) (g : String → β → γ) (r : Roster α) :
    (r.map f).map g = r.map fun n a => g n (f n a) := by
  simp [map, Function.comp_def]

theorem values_map (f : α → β) (r : Roster α) : (r.map fun _ a => f a).values = r.values.map f := by
  simp [values, map, Function.comp_def]

theorem find?_modify (r : Roster α) (name : String) (f : α → α) (other : String) :
    (r.modify name f).find? other =
      if other = name then (r.find? other).map f else r.find? other := by
  by_cases h : other = name <;> simp [modify, find?_map, h]

theorem lookup_filter_ne (name other : String) (es : List (String × α)) :
    (es.filter (·.1 ≠ name)).lookup other = if other = name then none else es.lookup other := by
  induction es with
  | nil => simp
  | cons e es ih =>
    obtain ⟨n, a⟩ := e
    by_cases hn : n = name
    · by_cases h : other = name
      · simpa [hn, h] using ih
      · simpa [hn, h, List.lookup_cons, beq_false_of_ne h] using ih
    · by_cases h : other = n
      · simp [hn, h]
      · simpa [hn, List.lookup_cons, beq_false_of_ne h] using ih

/-- A name that is struck off has no value, and the others keep theirs. -/
theorem find?_erase (r : Roster α) (name other : String) :
    (r.erase name).find? other = if other = name then none else r.find? other :=
  lookup_filter_ne name other r.entries

theorem find?_enter (r : Roster α) (name : String) (a : α) (h : r.find? name = none)
    (other : String) :
    (r.enter name a h).find? other = if other = name then some a else r.find? other := by
  have hn : r.entries.lookup name = none := h
  by_cases ho : other = name
  · subst ho
    simp [find?, enter, List.lookup_append, hn]
  · simp [find?, enter, List.lookup_append, List.lookup_cons, beq_false_of_ne ho, ho]

/-- A value that is put under a name is found there, and the others stay. -/
theorem find?_insert (r : Roster α) (name : String) (a : α) (other : String) :
    (r.insert name a).find? other = if other = name then some a else r.find? other := by
  unfold insert
  split
  next b hb =>
    by_cases h : other = name
    · subst h
      simp [find?_modify, hb]
    · simp [find?_modify, h]
  next hb => exact find?_enter r name a hb other

theorem mem_values_of_find? {r : Roster α} {name : String} {a : α} (h : r.find? name = some a) :
    a ∈ r.values := by
  obtain ⟨before, after, hr, -⟩ := List.lookup_eq_some_iff.1 h
  simp [values, hr]

/-! ## Lists computed from the entries -/

theorem lookup_eq_none {es : List (String × α)} {name : String} (h : name ∉ es.map Prod.fst) :
    es.lookup name = none := by
  rw [List.lookup_eq_none_iff]
  intro e he
  have hne : name ≠ e.1 := fun heq => h (List.mem_map.2 ⟨e, he, heq.symm⟩)
  exact bne_iff_ne.2 hne

/-- Each entry is found under its name. -/
theorem find?_of_mem {r : Roster α} {e : String × α} (h : e ∈ r.entries) :
    r.find? e.1 = some e.2 := by
  obtain ⟨name, a⟩ := e
  obtain ⟨before, after, hsplit⟩ := List.append_of_mem h
  have hnodup := r.distinct
  rw [hsplit, List.map_append, List.map_cons] at hnodup
  have hnew : name ∉ before.map Prod.fst := fun hmem =>
    (List.nodup_append.1 hnodup).2.2 name hmem name List.mem_cons_self rfl
  rw [find?, hsplit, List.lookup_append, lookup_eq_none hnew]
  simp

theorem mem_values_iff {r : Roster α} {a : α} : a ∈ r.values ↔ ∃ name, r.find? name = some a := by
  constructor
  · intro h
    obtain ⟨e, he, rfl⟩ := List.mem_map.1 h
    exact ⟨e.1, find?_of_mem he⟩
  · rintro ⟨name, h⟩
    exact mem_values_of_find? h

theorem map_congr {f g : String → α → β} {r : Roster α}
    (h : ∀ name a, r.find? name = some a → f name a = g name a) : r.map f = r.map g := by
  have hentries : (r.entries.map fun e => (e.1, f e.1 e.2)) =
      r.entries.map fun e => (e.1, g e.1 e.2) := by
    apply List.map_congr_left
    intro e he
    rw [h e.1 e.2 (find?_of_mem he)]
  simp only [map, hentries]

theorem filter_ne_of_not_mem {es : List (String × α)} {name : String}
    (h : name ∉ es.map Prod.fst) : es.filter (·.1 ≠ name) = es := by
  apply List.filter_eq_self.2
  intro e he
  rw [decide_eq_true_eq]
  rintro rfl
  exact h (List.mem_map_of_mem he)

theorem erase_modify (r : Roster α) (name : String) (f : α → α) :
    (r.modify name f).erase name = r.erase name := by
  have hentries : (r.modify name f).entries.filter (·.1 ≠ name) =
      r.entries.filter (·.1 ≠ name) := by
    simp only [modify, map, List.filter_map, Function.comp_def]
    refine (List.map_congr_left ?_).trans (List.map_id _)
    intro e he
    have hname : e.1 ≠ name := by simpa using (List.mem_filter.1 he).2
    rw [if_neg hname, id]
  simp only [erase, hentries]

/-- The value under a name and the values of the others. -/
theorem values_perm {r : Roster α} {name : String} {a : α} (h : r.find? name = some a) :
    r.values.Perm (a :: (r.erase name).values) := by
  obtain ⟨before, after, hsplit, -⟩ := List.lookup_eq_some_iff.1 h
  have hnodup := r.distinct
  rw [hsplit, List.map_append, List.map_cons] at hnodup
  have hbefore : name ∉ before.map Prod.fst := fun hmem =>
    (List.nodup_append.1 hnodup).2.2 name hmem name List.mem_cons_self rfl
  have hafter : name ∉ after.map Prod.fst :=
    (List.nodup_cons.1 (List.nodup_append.1 hnodup).2.1).1
  have hothers : (r.erase name).entries = before ++ after := by
    change r.entries.filter (·.1 ≠ name) = _
    rw [hsplit, List.filter_append, List.filter_cons_of_neg (by simp),
      filter_ne_of_not_mem hbefore, filter_ne_of_not_mem hafter]
  rw [values, values, hothers, hsplit, List.map_append, List.map_append, List.map_cons]
  exact List.perm_middle

theorem flatMap_lookup {γ : Type} {es : List (String × α)} (hd : (es.map Prod.fst).Nodup)
    (name : String) (f : String → α → List γ) (h : ∀ other a, other ≠ name → f other a = []) :
    (es.flatMap fun e => f e.1 e.2) = (es.lookup name).elim [] (f name) := by
  induction es with
  | nil => rfl
  | cons e es ih =>
    obtain ⟨n, a⟩ := e
    obtain ⟨hn, hd⟩ := List.nodup_cons.1 hd
    rw [List.flatMap_cons, ih hd]
    by_cases hname : name = n
    · subst hname
      simp [lookup_eq_none hn]
    · simp [List.lookup_cons, beq_false_of_ne hname, h n a (Ne.symm hname)]

/-- If all names but one contribute nothing, what is left is the contribution of that name. -/
theorem flatMap_entries {γ : Type} (r : Roster α) (name : String) (f : String → α → List γ)
    (h : ∀ other a, other ≠ name → f other a = []) :
    (r.entries.flatMap fun e => f e.1 e.2) = (r.find? name).elim [] (f name) :=
  flatMap_lookup r.distinct name f h

end Vigil.Roster

import Vigil.Text.Blank

/-!
# Trimmed texts

A trim takes the blanks at both ends of a text away, all of them and nothing else.
-/

namespace Vigil.Text

variable {cs core after : List Char}

/-- A text with no blank at either end. -/
structure Bare (cs : List Char) : Prop where
  first : ∀ c ∈ cs.head?, isBlank c = false
  last : ∀ c ∈ cs.getLast?, isBlank c = false

/-- `core` is `cs` without the blanks around it. -/
structure TrimsTo (cs core : List Char) : Prop where
  bare : Bare core
  around : ∃ before after, cs = before ++ core ++ after ∧
    (∀ c ∈ before, isBlank c = true) ∧ ∀ c ∈ after, isBlank c = true

/-! ## One end -/

theorem dropWhile_isBlank_of_first (h : ∀ c ∈ cs.head?, isBlank c = false) :
    cs.dropWhile isBlank = cs := by
  cases cs with
  | nil => rfl
  | cons c cs => simp [h c rfl]

theorem trimRight_of_last (h : ∀ c ∈ cs.getLast?, isBlank c = false) : trimRight cs = cs := by
  rw [trimRight, dropWhile_isBlank_of_first, List.reverse_reverse]
  rwa [List.head?_reverse]

theorem trimRight_append (h : ∀ c ∈ after, isBlank c = true) :
    trimRight (cs ++ after) = trimRight cs := by
  have hreverse : ∀ c ∈ after.reverse, isBlank c = true := fun c hc => h c (List.mem_reverse.1 hc)
  rw [trimRight, List.reverse_append, List.dropWhile_append_of_pos hreverse, trimRight]

theorem first_dropWhile (cs : List Char) :
    ∀ c ∈ (cs.dropWhile isBlank).head?, isBlank c = false := by
  intro c hc
  have hfirst := List.head?_dropWhile_not isBlank cs
  rw [Option.mem_def.1 hc] at hfirst
  exact hfirst

theorem last_trimRight (cs : List Char) : ∀ c ∈ (trimRight cs).getLast?, isBlank c = false := by
  rw [trimRight, List.getLast?_reverse]
  exact first_dropWhile _

/-- What is taken from the end of a text is blank. -/
theorem exists_trimRight_append (cs : List Char) :
    ∃ after, cs = trimRight cs ++ after ∧ ∀ c ∈ after, isBlank c = true := by
  refine ⟨(cs.reverse.takeWhile isBlank).reverse, ?_, fun c hc => ?_⟩
  · rw [trimRight, ← List.reverse_append, List.takeWhile_append_dropWhile, List.reverse_reverse]
  · exact List.all_eq_true.1 List.all_takeWhile c (List.mem_reverse.1 hc)

/-! ## Both ends -/

theorem trimsTo_trimChars (cs : List Char) : TrimsTo cs (trimChars cs) := by
  obtain ⟨after, hsplit, hafter⟩ := exists_trimRight_append (cs.dropWhile isBlank)
  refine ⟨⟨fun c hc => ?_, last_trimRight _⟩, cs.takeWhile isBlank, after, ?_, ?_, hafter⟩
  · change (trimRight (cs.dropWhile isBlank)).head? = some c at hc
    apply first_dropWhile cs
    rw [hsplit, List.head?_append, hc]
    rfl
  · rw [List.append_assoc, trimChars, ← hsplit, List.takeWhile_append_dropWhile]
  · exact List.all_eq_true.1 List.all_takeWhile

/-- There is one way only to take the blanks around a text away. -/
theorem trimChars_eq_iff : trimChars cs = core ↔ TrimsTo cs core := by
  constructor
  · rintro rfl
    exact trimsTo_trimChars cs
  · rintro ⟨⟨hfirst, hlast⟩, before, after, rfl, hbefore, hafter⟩
    rw [trimChars, List.append_assoc, List.dropWhile_append_of_pos hbefore]
    cases core with
    | nil =>
      have hnil : (after ++ []).dropWhile isBlank = [] := List.dropWhile_append_of_pos hafter
      rw [List.append_nil] at hnil
      rw [List.nil_append, hnil]
      rfl
    | cons c core =>
      have hcore : ∀ d ∈ (c :: core ++ after).head?, isBlank d = false := hfirst
      rw [dropWhile_isBlank_of_first hcore, trimRight_append hafter, trimRight_of_last hlast]

theorem trimsTo_self_iff : TrimsTo cs cs ↔ Bare cs :=
  ⟨TrimsTo.bare, fun h => ⟨h, [], [], by simp, nofun, nofun⟩⟩

theorem TrimsTo.length_le (h : TrimsTo cs core) : core.length ≤ cs.length := by
  obtain ⟨before, after, rfl, -, -⟩ := h.around
  simp only [List.length_append]
  omega

end Vigil.Text

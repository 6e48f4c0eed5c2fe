import Vigil.Duration
import Vigil.Proofs.Text.Numeral
import Vigil.Proofs.Text.Trim

/-!
# Components of durations

A duration is written as one or more components, each a numeral and a unit. A text is written by one
list of components at most, and what is read from it is the sum of these components.
-/

namespace Vigil.Duration

/-! ## Writing -/

/-- The letters that stand for a unit. -/
def Unit.symbol : Unit → List Char
  | hour => ['h']
  | minute => ['m']
  | second => ['s']
  | milli => ['m', 's']

def Unit.millis : Unit → Nat
  | hour => 3600000
  | minute => 60000
  | second => 1000
  | milli => 1

/-- A numeral and a unit. -/
@[ext]
structure Component where
  digits : List Char
  unit : Unit
  numeral : Text.IsNumeral digits

namespace Component

def value (c : Component) : Nat :=
  Text.decimal c.digits

def millis (c : Component) : Nat :=
  c.value * c.unit.millis

def chars (c : Component) : List Char :=
  c.digits ++ c.unit.symbol

/-- The number of a component and its seconds fit into 64 bits. -/
structure Fits (c : Component) : Prop where
  value_lt : c.value < Positional.word64
  hours_lt : c.unit = .hour → c.value * 3600 < Positional.word64
  minutes_lt : c.unit = .minute → c.value * 60 < Positional.word64

end Component

/-- Components as they are written, without anything between them. -/
def written (cs : List Component) : List Char :=
  cs.flatMap Component.chars

def total : List Component → Nat
  | [] => 0
  | c :: cs => c.millis + total cs

/-- The numbers of components, their seconds and the seconds of all together fit into 64 bits. -/
structure Representable (cs : List Component) : Prop where
  fits : ∀ c ∈ cs, c.Fits
  total_lt : total cs / 1000 < Positional.word64

/-- A text writes components, one at least, with blanks around them or without. -/
structure Writes (cs : List Component) (raw : String) : Prop where
  ne_nil : cs ≠ []
  trims : Text.TrimsTo raw.toList (written cs)

variable {cs cs' : List Component} {u u' : Unit}

theorem written_cons (c : Component) (cs : List Component) :
    written (c :: cs) = c.digits ++ (c.unit.symbol ++ written cs) := by
  rw [written, List.flatMap_cons, Component.chars, List.append_assoc]
  rfl

theorem total_perm (h : cs.Perm cs') : total cs' = total cs := by
  induction h with
  | nil => rfl
  | cons c _ ih => rw [total, total, ih]
  | swap c d cs =>
    simp only [total]
    omega
  | trans _ _ ih ih' => rw [ih', ih]

theorem Representable.perm (h : Representable cs) (hperm : cs.Perm cs') : Representable cs' := by
  refine ⟨fun c hc => h.fits c (hperm.mem_iff.2 hc), ?_⟩
  rw [total_perm hperm]
  exact h.total_lt

/-! ## Telling components apart -/

theorem Component.exists_cons (c : Component) :
    ∃ d ds, c.digits = d :: ds ∧ Text.IsDigit d := by
  obtain ⟨d, ds, hdigits⟩ := List.exists_cons_of_ne_nil c.numeral.ne_nil
  exact ⟨d, ds, hdigits, c.numeral.digits d (hdigits ▸ List.mem_cons_self)⟩

/-- What follows a component begins with a digit, if anything does. -/
theorem isDigit_of_head? {d : Char} (h : (written cs).head? = some d) : Text.IsDigit d := by
  cases cs with
  | nil => cases h
  | cons c cs =>
    obtain ⟨e, es, hdigits, he⟩ := c.exists_cons
    rw [written_cons, hdigits] at h
    cases h
    exact he

theorem head?_written_ne (cs : List Component) : (written cs).head? ≠ some 's' := fun h =>
  absurd (isDigit_of_head? h) (by decide)

theorem takeWhile_digits {ds : List Char} (h : ∀ d ∈ ds, Text.IsDigit d) (u : Unit)
    (rest : List Char) : (ds ++ (u.symbol ++ rest)).takeWhile (Text.IsDigit ·) = ds := by
  rw [List.takeWhile_append_of_pos (by simpa using h)]
  have hunit : (u.symbol ++ rest).takeWhile (Text.IsDigit ·) = [] := by cases u <;> rfl
  rw [hunit, List.append_nil]

/-- The letters of a unit are told from what follows them, which never begins with a letter. -/
theorem symbol_append_inj (h : u.symbol ++ written cs = u'.symbol ++ written cs') :
    u = u' ∧ written cs = written cs' := by
  have hhead := head?_written_ne cs
  have hhead' := head?_written_ne cs'
  generalize written cs = rest at h hhead
  generalize written cs' = rest' at h hhead'
  cases u <;> cases u' <;> grind [Unit.symbol]

/-- A text is written by one list of components at most. -/
theorem written_inj (h : written cs = written cs') : cs = cs' := by
  induction cs generalizing cs' with
  | nil =>
    cases cs' with
    | nil => rfl
    | cons c' cs' =>
      obtain ⟨d, ds, hdigits, -⟩ := c'.exists_cons
      rw [written_cons, hdigits] at h
      cases h
  | cons c cs ih =>
    cases cs' with
    | nil =>
      obtain ⟨d, ds, hdigits, -⟩ := c.exists_cons
      rw [written_cons, hdigits] at h
      cases h
    | cons c' cs' =>
      rw [written_cons, written_cons] at h
      have hdigits : c.digits = c'.digits := by
        rw [← takeWhile_digits c.numeral.digits c.unit (written cs), h,
          takeWhile_digits c'.numeral.digits]
      rw [hdigits] at h
      obtain ⟨hunit, hrest⟩ := symbol_append_inj (List.append_cancel_left h)
      rw [ih hrest, Component.ext hdigits hunit]

end Vigil.Duration

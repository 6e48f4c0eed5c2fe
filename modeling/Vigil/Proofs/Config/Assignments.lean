import Vigil.Config.Load

/-!
# Assignments of a file

The lines of a file of assignments are read up to the first malformed one, each with the variables
that are set by then. A variable that the environment does not set gets the value of the first
assignment to it.
-/

namespace Vigil.EnvFile

variable {env env' : Environment} {before said said' : List Line} {key value : String}
  {rest : List (List UInt8)}

/-- The value of the first assignment to a variable among lines. -/
def given (k : String) : List Line → Option String
  | [] => none
  | .blank :: said => given k said
  | .assignment key value :: said => if k = key then some value else given k said

/-- An environment with what lines give below it. -/
def below (env : Environment) (said : List Line) : Environment := fun k =>
  (env k).or (given k said)

/-- What the leading lines of a file say, up to the first malformed one, after lines that say
`before`. -/
def leading (env : Environment) (before : List Line) : List (List UInt8) → List Line
  | [] => []
  | bytes :: lines =>
    match (Text.text? bytes).bind (line? (below env before)) with
    | none => []
    | some line => line :: leading env (before ++ [line]) lines

/-- Every variable that the environment does not set can have the value that lines give to it. -/
def Settable (env : Environment) (said : List Line) : Prop :=
  ∀ k value, env k = none → given k said = some value → '\x00' ∉ value.toList

theorem given_append (k : String) (said said' : List Line) :
    given k (said ++ said') = (given k said).or (given k said') := by
  induction said with
  | nil => rfl
  | cons line said ih =>
    cases line with
    | blank => exact ih
    | assignment key value =>
      rw [List.cons_append, given, given]
      split
      · rfl
      · exact ih

theorem below_nil (env : Environment) : below env [] = env :=
  funext fun _ => Option.or_none

theorem below_blank (env : Environment) (said : List Line) :
    below env (said ++ [.blank]) = below env said := by
  funext k
  rw [below, given_append, below]
  exact congrArg _ Option.or_none

theorem below_assignment (env : Environment) (said : List Line) (key value : String) :
    below env (said ++ [.assignment key value]) = withDefault key value (below env said) := by
  funext k
  rw [below, given_append, withDefault, below, Option.or_assoc]
  rfl

/-! ## Reading -/

/-- Lines have something to set only where neither the environment nor an earlier line sets it. -/
theorem settable_assignment_iff (h : Settable env before) :
    Settable env (before ++ [.assignment key value]) ↔
      ¬((below env before key).isNone && value.contains '\x00') = true := by
  have hgiven (k : String) : given k (before ++ [.assignment key value]) =
      (given k before).or (if k = key then some value else none) := given_append ..
  have hnul : value.contains '\x00' = value.toList.contains '\x00' := by simp
  simp only [hnul, Bool.and_eq_true, Option.isNone_iff_eq_none, not_and, List.contains_iff_mem,
    below, Option.or_eq_none_iff, and_imp]
  constructor
  · intro hall hunset hnew
    exact hall key value hunset (by rw [hgiven, hnew, if_pos rfl]; rfl)
  · intro hkey k v hunset hv
    rw [hgiven] at hv
    cases hk : given k before with
    | some _ =>
      rw [hk] at hv
      cases hv
      exact h k v hunset hk
    | none =>
      rw [hk, Option.none_or] at hv
      split at hv
      · rename_i heq
        subst heq
        cases hv
        exact hkey hunset hk
      · cases hv

theorem Settable.of_append (h : Settable env (before ++ said)) : Settable env before := by
  intro k value hunset hvalue
  refine h k value hunset ?_
  rw [given_append, hvalue]
  rfl

/-- Reading lines comes to the environment with what the leading ones give below it. -/
theorem readLines_eq_ok_iff (h : Settable env before) :
    readLines rest (below env before) = .ok env' ↔
      Settable env (before ++ leading env before rest) ∧
        below env (before ++ leading env before rest) = env' := by
  induction rest generalizing before with
  | nil => simp [readLines, leading, h]
  | cons bytes rest ih =>
    rw [readLines, leading]
    cases hline : (Text.text? bytes).bind (line? (below env before)) with
    | none => simp [h]
    | some line =>
      have happend : before ++ line :: leading env (before ++ [line]) rest =
          (before ++ [line]) ++ leading env (before ++ [line]) rest := by simp
      cases line with
      | blank =>
        have hblank : Settable env (before ++ [.blank]) := by
          intro k value hunset hvalue
          rw [given_append] at hvalue
          exact h k value hunset (by simpa [given] using hvalue)
        dsimp only
        rw [← below_blank env before, ih hblank, happend]
      | assignment key value =>
        dsimp only
        rw [happend]
        split
        · rename_i hnul
          refine ⟨nofun, fun hall => ?_⟩
          exact absurd hnul ((settable_assignment_iff h).1 hall.1.of_append)
        · rename_i hset
          rw [← below_assignment, ih ((settable_assignment_iff h).2 hset)]

theorem settable_nil (env : Environment) : Settable env [] :=
  nofun

def wellFormed (env : Environment) (bytes : List UInt8) : List Line :=
  leading env [] (lines bytes)

theorem extend_eq_ok_iff {bytes : List UInt8} :
    extend bytes env = .ok env' ↔
      Settable env (wellFormed env bytes) ∧ below env (wellFormed env bytes) = env' := by
  rw [extend, wellFormed, ← List.nil_append (leading _ _ _),
    ← readLines_eq_ok_iff (settable_nil env), below_nil]

end Vigil.EnvFile

import Vigil.Config.Variable
import Vigil.Proofs.Text.Numeral

/-!
# Variables override settings

Each variable gives one setting. The variables of an environment are applied in a fixed order, up to
the first one that is set to a text which does not say a value for its setting. All before it are
applied then, and none after it.
-/

namespace Vigil

/-! ## Settings -/

/-- What the setting of a variable consists in. -/
abbrev Variable.Value : Variable → Type
  | address => Address
  | port | toFailed | toLow | toHigh => Nat
  | authToken => Option String
  | inactivityDelay | logLevel => String
  | dashboard => Bool

namespace Config

def setting (c : Config) : (v : Variable) → v.Value
  | .address => c.address
  | .port => c.port
  | .authToken => c.authToken
  | .inactivityDelay => c.inactivityDelay
  | .toFailed => c.thresholds.toFailed
  | .toLow => c.thresholds.toLow
  | .toHigh => c.thresholds.toHigh
  | .logLevel => c.logLevel
  | .dashboard => c.dashboard

/-- The configuration with another value for the setting that a variable is about. -/
def put (c : Config) : (v : Variable) → v.Value → Config
  | .address, a => { c with address := a }
  | .port, n => { c with port := n }
  | .authToken, token => { c with authToken := token }
  | .inactivityDelay, delay => { c with inactivityDelay := delay }
  | .toFailed, n => { c with thresholds.toFailed := n }
  | .toLow, n => { c with thresholds.toLow := n }
  | .toHigh, n => { c with thresholds.toHigh := n }
  | .logLevel, level => { c with logLevel := level }
  | .dashboard, b => { c with dashboard := b }

/-- The settings that no variable is about are the same in both configurations. -/
structure SameElsewhere (c c' : Config) : Prop where
  dashboardInterval : c'.dashboardInterval = c.dashboardInterval
  low : c'.low = c.low
  high : c'.high = c.high

variable {c c' c'' : Config} {u v : Variable}

@[simp]
theorem setting_put_self (c : Config) (v : Variable) (x : v.Value) :
    (c.put v x).setting v = x := by
  cases v <;> rfl

theorem setting_put_of_ne (x : v.Value) (h : u ≠ v) : (c.put v x).setting u = c.setting u := by
  cases v <;> cases u <;> first | rfl | exact absurd rfl h

theorem sameElsewhere_put (c : Config) (v : Variable) (x : v.Value) :
    c.SameElsewhere (c.put v x) := by
  cases v <;> exact ⟨rfl, rfl, rfl⟩

theorem SameElsewhere.refl (c : Config) : c.SameElsewhere c :=
  ⟨rfl, rfl, rfl⟩

theorem SameElsewhere.trans (h : c.SameElsewhere c') (h' : c'.SameElsewhere c'') :
    c.SameElsewhere c'' :=
  ⟨h'.1.trans h.1, h'.2.trans h.2, h'.3.trans h.3⟩

end Config

/-! ## Texts of variables -/

namespace Variable

/-- A text says a value for the setting of a variable. Blanks around it are of no account, but where
the text itself is the value. -/
def Says : (v : Variable) → String → v.Value → Prop
  | address, s, a => Address.ofString? (Text.trim s) = some a
  | port, s, n => Text.WritesUnsigned 65536 (Text.trim s) n
  | authToken, s, token => token = some s
  | inactivityDelay, s, delay => delay = s
  | toFailed, s, n | toLow, s, n | toHigh, s, n =>
    Text.WritesUnsigned Positional.word64 (Text.trim s) n
  | logLevel, s, level => level = s
  | dashboard, s, b => Text.trim s = if b then "true" else "false"

/-- A variable is not set, or to a text that says a value. -/
def Readable (env : Environment) (v : Variable) : Prop :=
  ∀ s, env v.key = some s → ∃ x, v.Says s x

/-- The setting of a variable after it has been applied: what the variable says if it is set, and
what it was before otherwise. -/
def Applied (env : Environment) (c c' : Config) (v : Variable) : Prop :=
  match env v.key with
  | some s => v.Says s (c'.setting v)
  | none => c'.setting v = c.setting v

variable {env : Environment} {c c' c'' : Config} {u v : Variable} {s : String}
variable {vs before : List Variable}

theorem bool?_eq_some_iff {b : Bool} : bool? s = some b ↔ s = if b then "true" else "false" := by
  unfold bool?
  split <;> cases b <;> simp_all

/-- What it is to set a variable. -/
theorem set?_eq_some_iff : v.set? s c = some c' ↔ ∃ x, v.Says s x ∧ c' = c.put v x := by
  cases v <;>
    simp [set?, Says, Config.put, Option.map_eq_some_iff, Text.unsigned?_eq_some_iff,
      bool?_eq_some_iff, @eq_comm _ c']

/-! ## One variable -/

structure Step (env : Environment) (c c' : Config) (v : Variable) : Prop where
  applied : Applied env c c' v
  others : ∀ u, u ≠ v → c'.setting u = c.setting u
  elsewhere : c.SameElsewhere c'

theorem step_of_apply (h : v.apply env c = .ok c') : Step env c c' v := by
  unfold apply at h
  split at h
  · rename_i hunset
    cases h
    exact ⟨by rw [Applied, hunset], fun _ _ => rfl, .refl c⟩
  · rename_i s hset
    split at h
    · rename_i next hnext
      cases h
      obtain ⟨x, hsays, rfl⟩ := set?_eq_some_iff.1 hnext
      refine ⟨?_, fun u hu => Config.setting_put_of_ne x hu, c.sameElsewhere_put v x⟩
      rw [Applied, hset]
      simpa using hsays
    · cases h

theorem exists_apply (h : Readable env v) (c : Config) : ∃ c', v.apply env c = .ok c' := by
  unfold apply
  split
  · exact ⟨c, rfl⟩
  · rename_i s hset
    obtain ⟨x, hsays⟩ := h s hset
    rw [set?_eq_some_iff.2 ⟨x, hsays, rfl⟩]
    exact ⟨c.put v x, rfl⟩

theorem apply_of_not_says (hset : env v.key = some s) (hno : ∀ x, ¬v.Says s x) (c : Config) :
    v.apply env c = .error (.invalidVariable v.key s) := by
  have hnone : v.set? s c = none := by
    refine Option.eq_none_iff_forall_ne_some.2 fun c' hc' => ?_
    obtain ⟨x, hsays, -⟩ := set?_eq_some_iff.1 hc'
    exact hno x hsays
  unfold apply
  rw [hset]
  simp only [hnone]

/-! ## One after the other -/

/-- What it is to apply variables one after the other. -/
structure Run (env : Environment) (c c' : Config) (vs : List Variable) : Prop where
  applied : ∀ v ∈ vs, Applied env c c' v
  others : ∀ v, v ∉ vs → c'.setting v = c.setting v
  elsewhere : c.SameElsewhere c'

theorem Applied.of_setting_eq (h : Applied env c' c'' v) (heq : c'.setting v = c.setting v) :
    Applied env c c'' v := by
  unfold Applied at h ⊢
  split at h
  · exact h
  · exact h.trans heq

theorem Applied.setting_eq (h : Applied env c c' v) (heq : c''.setting v = c'.setting v) :
    Applied env c c'' v := by
  unfold Applied at h ⊢
  rwa [heq]

theorem Run.cons (hstep : Step env c c' v) (hrun : Run env c' c'' vs) (hnot : v ∉ vs) :
    Run env c c'' (v :: vs) where
  applied := by
    refine List.forall_mem_cons.2 ⟨hstep.applied.setting_eq (hrun.others v hnot), fun u hu => ?_⟩
    have hne : u ≠ v := fun heq => hnot (heq ▸ hu)
    exact (hrun.applied u hu).of_setting_eq (hstep.others u hne)
  others := by
    intro u hu
    rw [List.mem_cons, not_or] at hu
    exact (hrun.others u hu.2).trans (hstep.others u hu.1)
  elsewhere := hstep.elsewhere.trans hrun.elsewhere

/-- Readable variables are applied, and the rest after them. -/
theorem exists_run (hnodup : before.Nodup) (h : ∀ v ∈ before, Readable env v) (c : Config) :
    ∃ c', Run env c c' before ∧
      ∀ after, applyAll env (before ++ after) c = applyAll env after c' := by
  induction before generalizing c with
  | nil => exact ⟨c, ⟨nofun, fun _ _ => rfl, .refl c⟩, fun _ => rfl⟩
  | cons v vs ih =>
    rw [List.nodup_cons] at hnodup
    rw [List.forall_mem_cons] at h
    obtain ⟨c₁, hc₁⟩ := exists_apply h.1 c
    obtain ⟨c₂, hrun, hrest⟩ := ih hnodup.2 h.2 c₁
    refine ⟨c₂, .cons (step_of_apply hc₁) hrun hnodup.1, fun after => ?_⟩
    rw [List.cons_append, applyAll, hc₁]
    exact hrest after

/-- The first variable of a list that cannot be read is `v`, which is set to `s` and comes after
those of `before`. -/
structure FirstFault (env : Environment) (vs before : List Variable) (v : Variable) (s : String) :
    Prop where
  split : ∃ after, vs = before ++ v :: after
  readable : ∀ u ∈ before, Readable env u
  set : env v.key = some s
  unreadable : ∀ x, ¬v.Says s x

theorem FirstFault.not_readable (h : FirstFault env vs before v s) :
    ¬∀ u ∈ vs, Readable env u := by
  intro hall
  obtain ⟨after, rfl⟩ := h.split
  obtain ⟨x, hx⟩ := hall v (by simp) s h.set
  exact h.unreadable x hx

theorem forall_readable_or (env : Environment) (vs : List Variable) :
    (∀ v ∈ vs, Readable env v) ∨ ∃ before v s, FirstFault env vs before v s := by
  induction vs with
  | nil => exact .inl nofun
  | cons v vs ih =>
    by_cases hv : Readable env v
    · obtain hall | ⟨before, w, s, ⟨after, rfl⟩, hbefore, hset, hno⟩ := ih
      · exact .inl (List.forall_mem_cons.2 ⟨hv, hall⟩)
      · exact .inr
          ⟨v :: before, w, s, ⟨after, rfl⟩, List.forall_mem_cons.2 ⟨hv, hbefore⟩, hset, hno⟩
    · simp only [Readable, Classical.not_forall, not_exists] at hv
      obtain ⟨s, hset, hno⟩ := hv
      exact .inr ⟨[], v, s, ⟨vs, rfl⟩, nofun, hset, hno⟩

theorem applyAll_of_readable (hnodup : vs.Nodup) (h : ∀ v ∈ vs, Readable env v) (c : Config) :
    ∃ c', Run env c c' vs ∧ applyAll env vs c = (c', none) := by
  obtain ⟨c', hrun, hrest⟩ := exists_run hnodup h c
  exact ⟨c', hrun, by simpa [applyAll] using hrest []⟩

theorem applyAll_of_firstFault (hnodup : vs.Nodup) (h : FirstFault env vs before v s)
    (c : Config) : ∃ c', Run env c c' before ∧
      applyAll env vs c = (c', some (.invalidVariable v.key s)) := by
  obtain ⟨⟨after, rfl⟩, hbefore, hset, hno⟩ := h
  obtain ⟨c', hrun, hrest⟩ := exists_run (List.nodup_append.1 hnodup).1 hbefore c
  refine ⟨c', hrun, ?_⟩
  rw [hrest, applyAll, apply_of_not_says hset hno]

/-! ## What an environment overrides -/

/-- What comes of applying variables in the order of a list. -/
structure OverrideSpec (env : Environment) (vs : List Variable) (c : Config)
    (out : Config × Option ConfigFault) : Prop where
  ok_iff : out.2 = none ↔ ∀ v ∈ vs, Readable env v
  /-- If nothing is in the way, all of them are applied. -/
  complete : out.2 = none → ∀ v ∈ vs, Applied env c out.1 v
  /-- The first one that cannot be read is named with its text. The ones before it are applied, and
  no other one is. -/
  cut : ∀ before v s, FirstFault env vs before v s →
    out.2 = some (.invalidVariable v.key s) ∧ (∀ u ∈ before, Applied env c out.1 u) ∧
      ∀ u, u ∉ before → out.1.setting u = c.setting u
  elsewhere : c.SameElsewhere out.1

theorem applyAll_spec (hnodup : vs.Nodup) (env : Environment) (c : Config) :
    OverrideSpec env vs c (applyAll env vs c) := by
  obtain hall | ⟨before, v, s, hfirst⟩ := forall_readable_or env vs
  · obtain ⟨c', hrun, heq⟩ := applyAll_of_readable hnodup hall c
    rw [heq]
    exact ⟨⟨fun _ => hall, fun _ => rfl⟩, fun _ => hrun.applied,
      fun before v s h => absurd hall h.not_readable, hrun.elsewhere⟩
  · obtain ⟨c', hrun, heq⟩ := applyAll_of_firstFault hnodup hfirst c
    refine ⟨?_, ?_, fun before' v' s' h => ?_, ?_⟩
    · simp [heq, hfirst.not_readable]
    · simp [heq]
    · obtain ⟨c'', hrun', heq'⟩ := applyAll_of_firstFault hnodup h c
      rw [heq']
      exact ⟨rfl, hrun'.applied, hrun'.others⟩
    · rw [heq]
      exact hrun.elsewhere

theorem nodup_all : all.Nodup := by
  decide

theorem mem_all (v : Variable) : v ∈ all := by
  cases v <;> decide

end Variable

theorem Config.override_spec (env : Environment) (c : Config) :
    Variable.OverrideSpec env Variable.all c (Config.override env c) :=
  Variable.applyAll_spec Variable.nodup_all env c

/-- The variables of an environment override settings in order, up to the first fault. -/
theorem Config.override_in_order (env : Environment) (c : Config) :
    Variable.all.map Variable.key =
        ["SENTINEL_ADDRESS", "SENTINEL_PORT", "SENTINEL_AUTH_TOKEN",
          "SENTINEL_PROBE_INACTIVITY_DELAY", "SENTINEL_DEGRADED_TO_FAILED",
          "SENTINEL_FAILED_TO_ALERTED_LOW", "SENTINEL_ALERTED_LOW_TO_ALERTED_HIGH",
          "SENTINEL_LOGGING_LEVEL", "SENTINEL_DASHBOARD"] ∧
      Variable.OverrideSpec env Variable.all c (Config.override env c) :=
  ⟨by decide, Config.override_spec env c⟩

/-- Blanks around an address do not count, and a token is not taken any more after a port that is
out of range. -/
theorem Config.override_in_order_of_port :
    let vars := [("SENTINEL_AUTH_TOKEN", " t "), ("SENTINEL_ADDRESS", " 127.0.0.1\n"),
      ("SENTINEL_PORT", " 65536 ")]
    let env : Environment := fun k => vars.lookup k
    Variable.OverrideSpec env Variable.all .default (Config.override env .default) ∧
      Config.override env .default =
        ({ Config.default with address := .v4 0x7f000001 },
          some (.invalidVariable "SENTINEL_PORT" " 65536 ")) :=
  ⟨(Config.override_in_order _ _).2, by decide +kernel⟩

end Vigil

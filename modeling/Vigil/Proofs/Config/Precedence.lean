import Vigil.Proofs.Config.Assignments
import Vigil.Proofs.Config.File

/-!
# Precedence of layers

A configuration is made of four layers. What the environment sets goes before what the file of
assignments does, this before what the configuration file gives, and the default has the rest. A
fault of the configuration file shows whatever the other layers hold.
-/

namespace Vigil.Config

open Json (Document)

variable {d : Directory} {path : Option String} {env : Environment} {c c' : Config} {p : String}

/-! ## The selected file -/

/-- The configuration file that is read: the one that is named, or else the one that is there. -/
def selected? (d : Directory) (path : Option String) : Option String :=
  path.or (if d.holds configFile then some configFile else none)

/-- The document of the selected file. -/
def document? (d : Directory) (path : Option String) : Option Document := do
  let text ← (d.readText (← selected? d path)).toOption
  return (Json.Root.ofCodes (Text.Code.ofString text)).document

/-- A file holds the text of a configuration. -/
def Decodes (d : Directory) (p : String) (c : Config) : Prop :=
  ∃ text, d.readText p = .ok text ∧ Json.decode decode (Text.Code.ofString text) = .ok c

theorem base_eq (d : Directory) (path : Option String) :
    base d path = ((selected? d path).map (ofFile d)).getD (.ok .default) := by
  cases path with
  | some p => rfl
  | none =>
    rw [base, selected?, Option.none_or]
    split <;> rfl

theorem ofFile_eq_ok_iff : ofFile d p = .ok c ↔ Decodes d p c := by
  unfold ofFile Decodes
  split
  · simp [*]
  · split <;> simp [*]

theorem base_eq_ok_of_selected (h : base d path = .ok c) (hp : selected? d path = some p) :
    Decodes d p c := by
  rw [base_eq, hp] at h
  exact ofFile_eq_ok_iff.1 h

/-- Each field of the configuration below the variables is from the selected file or the default. -/
theorem fromDocument_of_base (h : base d path = .ok c) (f : Field) :
    Field.FromDocument (document? d path) f (c.value f) := by
  cases hp : selected? d path with
  | none =>
    rw [base_eq, hp] at h
    cases h
    simp [document?, hp, Field.FromDocument]
  | some p =>
    obtain ⟨text, htext, hdecode⟩ := base_eq_ok_of_selected h hp
    obtain ⟨c', hc', hclean⟩ := exists_of_bind_eq_ok hdecode
    split at hclean
    · cases hclean
      have hdocument : document? d path =
          some (Json.Root.ofCodes (Text.Code.ofString text)).document := by
        simp [document?, hp, htext, Except.toOption]
      rw [hdocument]
      exact Field.fromDocument_of_decode hc' f
    · cases hclean

/-! ## The file of assignments -/

/-- What the file of assignments says in its well-formed leading lines, if there is one. -/
def assignments (d : Directory) (env : Environment) : List EnvFile.Line :=
  match d.read envFile with
  | .ok bytes => EnvFile.wellFormed env bytes
  | .error _ => []

theorem environment_eq_ok_iff {env' : Environment} :
    environment d env = .ok env' ↔ EnvFile.Settable env (assignments d env) ∧
      EnvFile.below env (assignments d env) = env' := by
  unfold environment assignments
  cases d.read envFile with
  | ok bytes => exact EnvFile.extend_eq_ok_iff
  | error _ => simp [EnvFile.settable_nil, EnvFile.below_nil]

/-! ## All layers -/

/-- The environment with the file of assignments below it. -/
def merged (d : Directory) (env : Environment) : Environment :=
  EnvFile.below env (assignments d env)

theorem exists_base_iff : (∃ c, base d path = .ok c) ↔
    ∀ p, selected? d path = some p → ∃ c, Decodes d p c := by
  rw [base_eq]
  cases selected? d path with
  | none => simp
  | some p => simp [ofFile_eq_ok_iff]

theorem load_eq_ok_iff : load d path env = .ok c ↔
    ∃ c₀, base d path = .ok c₀ ∧ EnvFile.Settable env (assignments d env) ∧
      override (merged d env) c₀ = (c, none) := by
  unfold load
  constructor
  · intro h
    obtain ⟨c₀, hbase, h⟩ := exists_of_bind_eq_ok h
    obtain ⟨env', henv, h⟩ := exists_of_bind_eq_ok h
    obtain ⟨hset, rfl⟩ := environment_eq_ok_iff.1 henv
    refine ⟨c₀, hbase, hset, ?_⟩
    split at h
    · cases h
      assumption
    · cases h
  · rintro ⟨c₀, hbase, hset, hover⟩
    rw [hbase, environment_eq_ok_iff.2 ⟨hset, rfl⟩]
    simp only [bind, Except.bind]
    rw [← merged, hover]
    rfl

theorem load_of_base_error {f : ConfigFault} (h : base d path = .error f) :
    load d path env = .error f := by
  unfold load
  rw [h]
  rfl

/-- The setting of a variable is from the first layer that has it: what the environment says, or
else the first assignment to the variable, or else what stands in the selected file, or else the
default. -/
def FromFirst (d : Directory) (path : Option String) (env : Environment) (c : Config)
    (v : Variable) : Prop :=
  match (env v.key).or (EnvFile.given v.key (assignments d env)) with
  | some s => v.Says s (c.setting v)
  | none => Field.FromDocument (document? d path) (.of v) (c.setting v)

structure LoadSpec (d : Directory) (path : Option String) (env : Environment)
    (out : Except ConfigFault Config) : Prop where
  layered : ∀ c, out = .ok c → ∀ v, FromFirst d path env c v
  /-- No other field is from anywhere but the selected file or the default. -/
  elsewhere : ∀ c, out = .ok c → ∀ f, (∀ v, f ≠ .of v) →
    Field.FromDocument (document? d path) f (c.value f)
  /-- A selected file that cannot be read is the fault, whatever is set. -/
  unreadable : ∀ p cause, selected? d path = some p → d.readText p = .error cause →
    out = .error (.unreadable p cause)
  /-- And so is one that is no configuration. -/
  malformed : ∀ p text fault, selected? d path = some p → d.readText p = .ok text →
    Json.decode decode (Text.Code.ofString text) = .error fault → out = .error (.malformed fault)
  ok_iff : (∃ c, out = .ok c) ↔ (∀ p, selected? d path = some p → ∃ c, Decodes d p c) ∧
    EnvFile.Settable env (assignments d env) ∧
      ∀ v ∈ Variable.all, Variable.Readable (merged d env) v

theorem fromFirst_of_load (h : load d path env = .ok c) (v : Variable) :
    FromFirst d path env c v := by
  obtain ⟨c₀, hbase, -, hover⟩ := load_eq_ok_iff.1 h
  have hspec := override_spec (merged d env) c₀
  rw [hover] at hspec
  have happlied := hspec.complete rfl v (Variable.mem_all v)
  rw [Variable.Applied, merged, EnvFile.below] at happlied
  unfold FromFirst
  cases hv : (env v.key).or (EnvFile.given v.key (assignments d env)) with
  | some s =>
    rw [hv] at happlied
    exact happlied
  | none =>
    rw [hv] at happlied
    dsimp only at happlied ⊢
    rw [happlied]
    exact fromDocument_of_base hbase (.of v)

theorem elsewhere_of_load (h : load d path env = .ok c) (f : Field) (hf : ∀ v, f ≠ .of v) :
    Field.FromDocument (document? d path) f (c.value f) := by
  obtain ⟨c₀, hbase, -, hover⟩ := load_eq_ok_iff.1 h
  have hsame := (override_spec (merged d env) c₀).elsewhere
  rw [hover] at hsame
  have hvalue : c.value f = c₀.value f := by
    cases f with
    | of v => exact absurd rfl (hf v)
    | dashboardInterval => exact hsame.dashboardInterval
    | low => exact hsame.low
    | high => exact hsame.high
  rw [hvalue]
  exact fromDocument_of_base hbase f

theorem exists_load_iff : (∃ c, load d path env = .ok c) ↔
    (∀ p, selected? d path = some p → ∃ c, Decodes d p c) ∧
      EnvFile.Settable env (assignments d env) ∧
        ∀ v ∈ Variable.all, Variable.Readable (merged d env) v := by
  rw [← exists_base_iff]
  constructor
  · rintro ⟨c, h⟩
    obtain ⟨c₀, hbase, hset, hover⟩ := load_eq_ok_iff.1 h
    refine ⟨⟨c₀, hbase⟩, hset, (override_spec _ c₀).ok_iff.1 ?_⟩
    rw [hover]
  · rintro ⟨⟨c₀, hbase⟩, hset, hall⟩
    have hok := (override_spec (merged d env) c₀).ok_iff.2 hall
    exact ⟨_, load_eq_ok_iff.2 ⟨c₀, hbase, hset, Prod.ext rfl hok⟩⟩

/-- All layers have one precedence. -/
theorem layers_by_precedence (d : Directory) (path : Option String) (env : Environment) :
    LoadSpec d path env (load d path env) where
  layered := fun _ => fromFirst_of_load
  elsewhere := fun _ => elsewhere_of_load
  unreadable := by
    intro p cause hp hread
    refine load_of_base_error ?_
    rw [base_eq, hp, Option.map_some, Option.getD_some, ofFile, hread]
  malformed := by
    intro p text fault hp hread hdecode
    refine load_of_base_error ?_
    rw [base_eq, hp, Option.map_some, Option.getD_some, ofFile, hread]
    simp only [hdecode]
  ok_iff := exists_load_iff

/-- A file gives three settings, the file of assignments one of them and another one, and the
environment one of all these. The file of assignments is malformed from its third line on. -/
theorem layers_by_precedence_of_four :
    let d : Directory := ⟨fun
      | "server-config.json" => .ok (.file (Text.utf8
          "\x7b\"port\": 80, \"dashboard\": false, \"logging_level\": \"warn\"\x7d"))
      | ".server.env" => .ok (.file (Text.utf8
          "SENTINEL_PORT=81\nexport SENTINEL_AUTH_TOKEN='a b'\n=\nSENTINEL_DASHBOARD=true"))
      | _ => .error .absent⟩
    let env : Environment := fun k => if k = "SENTINEL_LOGGING_LEVEL" then some "off" else none
    LoadSpec d none env (load d none env) ∧
      load d none env = .ok { Config.default with
        port := 81, authToken := some "a b", logLevel := "off", dashboard := false } := by
  intro d env
  have hsaid : assignments d env =
      [.assignment "SENTINEL_PORT" "81", .assignment "SENTINEL_AUTH_TOKEN" "a b"] := by
    decide +kernel
  have hset : EnvFile.Settable env (assignments d env) := by
    rw [hsaid]
    intro k value _ hvalue
    simp only [EnvFile.given] at hvalue
    split at hvalue
    · cases hvalue
      decide
    · split at hvalue <;> cases hvalue
      decide
  have hbase : base d none =
      .ok { Config.default with port := 80, logLevel := "warn", dashboard := false } := by
    rfl
  refine ⟨layers_by_precedence d none env, load_eq_ok_iff.2 ⟨_, hbase, hset, ?_⟩⟩
  rw [merged, hsaid]
  decide +kernel

end Vigil.Config

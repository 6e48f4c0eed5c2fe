import Vigil.Config.Load
import Vigil.Proofs.Config.Override

/-!
# Fields of configuration files

A configuration file gives the fields that stand in it, whichever these are, and the default gives
the rest. In an object a field stands as the member with its name, and in an array at its place.
-/

namespace Vigil

open Json (Decode Document Name Stop)
open Json.Decode (RecordField readItems readMembers)

/-- The fields of a configuration. Most of them are settings that a variable is about. -/
inductive Field where
  | of (v : Variable)
  | dashboardInterval
  | low
  | high
  deriving DecidableEq, Repr

namespace Field

abbrev Value : Field → Type
  | of v => v.Value
  | dashboardInterval => Nat
  | low | high => Option Binding

def all : List Field :=
  Variable.all.map of ++ [dashboardInterval, low, high]

def name : Field → String
  | of .address => "address"
  | of .port => "port"
  | of .authToken => "auth_token"
  | of .inactivityDelay => "probe_inactivity_delay"
  | of .toFailed => "degraded_to_failed"
  | of .toLow => "failed_to_alerted_low"
  | of .toHigh => "alerted_low_to_alerted_high"
  | of .logLevel => "logging_level"
  | of .dashboard => "dashboard"
  | dashboardInterval => "dashboard_interval_secs"
  | low => "low_alert_provider"
  | high => "high_alert_provider"

/-- Whether a field may be left off at the end of an array. -/
def optional : Field → Bool
  | of .authToken | low | high => false
  | _ => true

open Json.Decode in
def decode : (f : Field) → Decode f.Value
  | of .address => parsed Address.ofString?
  | of .port => natural 65536
  | of .authToken => nullable text
  | of .inactivityDelay | of .logLevel => text
  | of .toFailed | of .toLow | of .toHigh | dashboardInterval => natural Positional.word64
  | of .dashboard => bool
  | low | high => nullable Binding.decode

end Field

def Config.value (c : Config) : (f : Field) → f.Value
  | .of v => c.setting v
  | .dashboardInterval => c.dashboardInterval
  | .low => c.low
  | .high => c.high

theorem exists_of_bind_eq_ok {ε α β : Type} {x : Except ε α} {f : α → Except ε β} {b : β}
    (h : x >>= f = .ok b) : ∃ a, x = .ok a ∧ f a = .ok b := by
  cases x with
  | error => cases h
  | ok a => exact ⟨a, rfl, h⟩

namespace Layer

def value? (l : Layer) : (f : Field) → Option f.Value
  | .of .address => l.address
  | .of .port => l.port
  | .of .authToken => l.authToken
  | .of .inactivityDelay => l.inactivityDelay
  | .of .toFailed => l.toFailed
  | .of .toLow => l.toLow
  | .of .toHigh => l.toHigh
  | .of .logLevel => l.logLevel
  | .of .dashboard => l.dashboard
  | .dashboardInterval => l.dashboardInterval
  | .low => l.low
  | .high => l.high

/-- The layer that gives a value to a field as well. -/
def put (l : Layer) : (f : Field) → f.Value → Layer
  | .of .address, a => { l with address := some a }
  | .of .port, n => { l with port := some n }
  | .of .authToken, token => { l with authToken := some token }
  | .of .inactivityDelay, delay => { l with inactivityDelay := some delay }
  | .of .toFailed, n => { l with toFailed := some n }
  | .of .toLow, n => { l with toLow := some n }
  | .of .toHigh, n => { l with toHigh := some n }
  | .of .logLevel, level => { l with logLevel := some level }
  | .of .dashboard, b => { l with dashboard := some b }
  | .dashboardInterval, n => { l with dashboardInterval := some n }
  | .low, b => { l with low := some b }
  | .high, b => { l with high := some b }

variable {l l' : Layer} {f g : Field}

@[simp]
theorem value?_put_self (l : Layer) (f : Field) (x : f.Value) :
    (l.put f x).value? f = some x := by
  rcases f with (_ | _) | _ | _ | _ <;> rfl

theorem value?_put_of_ne (x : g.Value) (h : f ≠ g) : (l.put g x).value? f = l.value? f := by
  cases g with
  | of v => cases v <;> rcases f with (_ | _) | _ | _ | _ <;> first | rfl | exact absurd rfl h
  | _ => rcases f with (_ | _) | _ | _ | _ <;> first | rfl | exact absurd rfl h

@[simp]
theorem value?_empty (f : Field) : empty.value? f = none := by
  rcases f with (_ | _) | _ | _ | _ <;> rfl

/-- What a file leaves out is as in the configuration where nothing is given. -/
theorem value_config (l : Layer) (f : Field) :
    l.config.value f = (l.value? f).getD (Config.default.value f) := by
  rcases f with (_ | _) | _ | _ | _ <;> rfl

end Layer

namespace Field

variable {l l' : Layer} {f g : Field} {stop : Option Stop} {members : List (Name × Document)}
  {fields : List Field} {items : List Document}

def record (f : Field) : RecordField Layer where
  name := f.name
  given l := (l.value? f).isSome
  read l d := do return l.put f (← f.decode d)
  optional := f.optional

theorem fields_eq : Layer.fields = all.map record :=
  rfl

theorem nodup_all : all.Nodup := by
  decide

theorem find?_name (f : Field) : all.find? (·.name == f.name) = some f := by
  rcases f with (_ | _) | _ | _ | _ <;> rfl

theorem name_inj (h : f.name = g.name) : f = g := by
  have hf := find?_name f
  rw [h, find?_name g] at hf
  exact (Option.some.inj hf).symm

theorem read_eq_ok_iff {d : Document} :
    f.record.read l d = .ok l' ↔ ∃ x, f.decode d = .ok x ∧ l.put f x = l' := by
  unfold record
  cases h : f.decode d <;> simp [h, pure, Except.pure, bind, Except.bind]

/-! ## Where fields stand -/

def names (f : Field) (n : Name) : Bool :=
  match n.value with
  | .ok name => name == f.name
  | .error _ => false

/-- The value of the first member with the name of a field. -/
def member? (f : Field) : List (Name × Document) → Option Document
  | [] => none
  | (n, d) :: members => if f.names n then some d else member? f members

def part? (f : Field) : Document → Option Document
  | .object members _ => f.member? members
  | .array items _ => (all.zip items).lookup f
  | _ => none

/-- What is read for a field where a document may stand for it: its value, or what there is already
if none does. -/
def Reads (part : Option Document) (f : Field) (before after : Option f.Value) : Prop :=
  match part with
  | some d => ∃ x, f.decode d = .ok x ∧ after = some x
  | none => after = before

theorem names_iff {n : Name} : f.names n = true ↔ n.value = .ok f.name := by
  unfold names
  cases n.value <;> simp

theorem names_unique {n : Name} (hf : f.names n = true) (hg : g.names n = true) : f = g := by
  rw [names_iff] at hf hg
  exact name_inj (Except.ok.inj (hf.symm.trans hg))

/-- A member is read into the field that it names, if it names one, which has not been read yet. -/
theorem exists_of_readMembers_cons {n : Name} {d : Document}
    (h : readMembers Layer.fields stop l ((n, d) :: members) = .ok l') :
    ∃ l₁, readMembers Layer.fields stop l₁ members = .ok l' ∧
      ((∃ g, names g n = true ∧ l.value? g = none ∧ ∃ x, g.decode d = .ok x ∧ l₁ = l.put g x) ∨
        (∀ g, names g n = false) ∧ l₁ = l) := by
  rw [readMembers] at h
  obtain ⟨name, hn, h⟩ := exists_of_bind_eq_ok h
  rw [fields_eq, List.find?_map] at h
  split at h
  · rename_i field hfield
    obtain ⟨g, hg, rfl⟩ := Option.map_eq_some_iff.1 hfield
    have hname : g.name = name := by simpa [record] using List.find?_some hg
    split at h
    · cases h
    · rename_i hgiven
      obtain ⟨l₁, hread, h⟩ := exists_of_bind_eq_ok h
      obtain ⟨x, hx, rfl⟩ := read_eq_ok_iff.1 hread
      exact ⟨_, h, .inl ⟨g, names_iff.2 (hname ▸ hn), by simpa [record] using hgiven, x, hx, rfl⟩⟩
  · rename_i hnone
    split at h
    · cases h
    · refine ⟨l, h, .inr ⟨fun g => ?_, rfl⟩⟩
      rw [Option.map_eq_none_iff, List.find?_eq_none] at hnone
      have hg : g ∈ all := List.mem_of_find?_eq_some (find?_name g)
      rw [← Bool.not_eq_true, names_iff, hn, Except.ok.injEq]
      rintro rfl
      exact hnone g hg (by simp [record])

/-- A field is not read twice. -/
theorem member?_eq_none (h : readMembers Layer.fields stop l members = .ok l')
    (hf : l.value? f ≠ none) : f.member? members = none := by
  induction members generalizing l with
  | nil => rfl
  | cons m members ih =>
    obtain ⟨n, d⟩ := m
    obtain ⟨l₁, hrest, ⟨g, hg, hfresh, x, -, rfl⟩ | ⟨hno, rfl⟩⟩ := exists_of_readMembers_cons h
    · have hfg : f ≠ g := by
        rintro rfl
        exact hf hfresh
      rw [member?, if_neg fun hnames => hfg (names_unique hnames hg)]
      exact ih hrest (by rwa [Layer.value?_put_of_ne x hfg])
    · rw [member?, if_neg (by simp [hno])]
      exact ih hrest hf

theorem reads_of_readMembers (h : readMembers Layer.fields stop l members = .ok l') (f : Field) :
    Reads (f.member? members) f (l.value? f) (l'.value? f) := by
  induction members generalizing l with
  | nil =>
    obtain ⟨-, -, hl⟩ := exists_of_bind_eq_ok h
    cases hl
    rfl
  | cons m members ih =>
    obtain ⟨n, d⟩ := m
    obtain ⟨l₁, hrest, ⟨g, hg, -, x, hx, rfl⟩ | ⟨hno, rfl⟩⟩ := exists_of_readMembers_cons h
    · have hlater := ih hrest
      by_cases hfg : f = g
      · subst hfg
        have hgiven : (l.put f x).value? f = some x := l.value?_put_self f x
        rw [member?_eq_none hrest (by simp [hgiven]), hgiven] at hlater
        rw [member?, if_pos hg]
        exact ⟨x, hx, hlater⟩
      · rw [Layer.value?_put_of_ne x hfg] at hlater
        rwa [member?, if_neg fun hnames => hfg (names_unique hnames hg)]
    · rw [member?, if_neg (by simp [hno])]
      exact ih hrest

theorem lookup_zip_of_not_mem (hf : f ∉ fields) (items : List Document) :
    (fields.zip items).lookup f = none := by
  rw [List.lookup_eq_none_iff]
  rintro ⟨g, d⟩ hmem
  have hfg : f ≠ g := by
    rintro rfl
    exact hf (List.of_mem_zip hmem).1
  simpa using hfg

/-- The items of an array are read into fields one by one. -/
theorem reads_of_readItems (hnodup : fields.Nodup)
    (h : readItems stop l (fields.map record) items = .ok l') (f : Field) :
    Reads ((fields.zip items).lookup f) f (l.value? f) (l'.value? f) := by
  induction fields generalizing l items with
  | nil =>
    cases items with
    | nil =>
      obtain ⟨-, -, hl⟩ := exists_of_bind_eq_ok h
      cases hl
      rfl
    | cons d items => cases h
  | cons g fields ih =>
    rw [List.nodup_cons] at hnodup
    cases items with
    | nil =>
      obtain ⟨-, -, h⟩ := exists_of_bind_eq_ok h
      split at h
      · simpa using ih hnodup.2 h
      · cases h
    | cons d items =>
      obtain ⟨l₁, hread, hrest⟩ := exists_of_bind_eq_ok h
      obtain ⟨x, hx, rfl⟩ := read_eq_ok_iff.1 hread
      have hlater := ih hnodup.2 hrest
      by_cases hfg : f = g
      · subst hfg
        rw [lookup_zip_of_not_mem hnodup.1, Layer.value?_put_self] at hlater
        rw [List.zip_cons_cons, List.lookup_cons_self]
        exact ⟨x, hx, hlater⟩
      · rw [Layer.value?_put_of_ne x hfg] at hlater
        rwa [List.zip_cons_cons, List.lookup_cons, beq_false_of_ne hfg]

/-! ## Files -/

/-- What a document that may be there makes of a field: what stands in it, or else the default. -/
def FromDocument (doc : Option Document) (f : Field) (x : f.Value) : Prop :=
  match doc.bind f.part? with
  | some part => f.decode part = .ok x
  | none => x = Config.default.value f

theorem fromDocument_of_decode {doc : Document} {c : Config} (h : Config.decode doc = .ok c)
    (f : Field) : FromDocument (some doc) f (c.value f) := by
  obtain ⟨l, hl, hc⟩ := exists_of_bind_eq_ok h
  cases hc
  have hread : Reads (f.part? doc) f none (l.value? f) := by
    rw [← Layer.value?_empty f]
    cases doc with
    | object members stop => exact reads_of_readMembers hl f
    | array items stop => exact reads_of_readItems nodup_all hl f
    | scalar _ | absent _ => cases hl
  rw [FromDocument, Option.bind_some, Layer.value_config]
  unfold Reads at hread
  split at hread
  · obtain ⟨x, hx, hvalue⟩ := hread
    simp [*]
  · simp [*]

end Field

end Vigil

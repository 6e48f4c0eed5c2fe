import Vigil.Api.Access
import Vigil.Proofs.Text.Trim

/-!
# Presented tokens

A request presents the token that its first authorization header holds: what follows the word
`Bearer` and a space, or else all of it, without the blanks around it. A header that is not readable
or holds nothing presents no token.
-/

namespace Vigil

/-! ## The first header of a name -/

namespace Http.Headers

/-- A value is that of the first header of a name, which is in lower case here. -/
def IsFirst (name : String) (hs : Headers) (value : List UInt8) : Prop :=
  ∃ before key after, hs = before ++ (key, value) :: after ∧ Text.asciiLower key = name ∧
    ∀ h ∈ before, Text.asciiLower h.1 ≠ name

theorem get?_eq_some_iff {name : String} {hs : Headers} {value : List UInt8} :
    hs.get? name = some value ↔ IsFirst name hs value := by
  unfold get? IsFirst
  rw [Option.map_eq_some_iff]
  constructor
  · rintro ⟨⟨key, value⟩, hfind, rfl⟩
    obtain ⟨hkey, before, after, hsplit, hbefore⟩ := List.find?_eq_some_iff_append.1 hfind
    refine ⟨before, key, after, hsplit, by simpa using hkey, fun h hh => ?_⟩
    simpa using hbefore h hh
  · rintro ⟨before, key, after, hsplit, hkey, hbefore⟩
    refine ⟨(key, value), List.find?_eq_some_iff_append.2 ⟨by simpa using hkey, before, after,
      hsplit, fun h hh => ?_⟩, rfl⟩
    simpa using hbefore h hh

end Http.Headers

namespace Access

/-! ## What a header holds -/

/-- A value of printable ASCII and tabs spells a text. -/
structure Spells (value : List UInt8) (text : List Char) : Prop where
  readable : ∀ b ∈ value, b = 0x09 ∨ 0x20 ≤ b ∧ b < 0x7F
  text_eq : value.map (fun b => Char.ofNat b.toNat) = text

def Unlabelled (lead text rest : List Char) : Prop :=
  text = lead ++ rest ∨ rest = text ∧ ¬lead <+: text

theorem readable?_eq_some_iff {value : List UInt8} {text : String} :
    readable? value = some text ↔ Spells value text.toList := by
  have hreadable : value.all isReadable = true ↔
      ∀ b ∈ value, b = 0x09 ∨ 0x20 ≤ b ∧ b < 0x7F := by
    rw [List.all_eq_true]
    refine forall₂_congr fun b _ => ?_
    simp [isReadable, or_comm]
  unfold readable?
  constructor
  · intro h
    split at h
    · cases h
      exact ⟨hreadable.1 ‹_›, String.toList_ofList.symm⟩
    · cases h
  · rintro ⟨hall, heq⟩
    rw [if_pos (hreadable.2 hall), heq, String.ofList_toList]

theorem withoutPrefix_eq_iff {lead text rest : List Char} :
    withoutPrefix lead text = rest ↔ Unlabelled lead text rest := by
  unfold withoutPrefix Unlabelled
  by_cases h : lead <+: text
  · have hdrop : text = lead ++ text.drop lead.length := List.prefix_iff_eq_append.1 h |>.symm
    rw [if_pos (by simpa using h)]
    refine ⟨fun heq => .inl (heq ▸ hdrop), fun hor => ?_⟩
    rcases hor with rfl | ⟨-, hno⟩
    · exact List.drop_left
    · exact absurd h hno
  · have hne : text ≠ lead ++ rest := by
      rintro rfl
      exact h (List.prefix_append _ _)
    rw [if_neg (by simpa using h)]
    exact ⟨fun heq => .inr ⟨heq.symm, h⟩, fun hor => (hor.resolve_left hne).1.symm⟩

theorem token_eq_iff {text t : String} :
    token text = t ↔
      ∃ rest, Unlabelled "Bearer ".toList text.toList rest ∧ Text.TrimsTo rest t.toList := by
  rw [token, ← String.toList_inj, String.toList_ofList, Text.trimChars_eq_iff]
  constructor
  · intro h
    exact ⟨_, withoutPrefix_eq_iff.1 rfl, h⟩
  · rintro ⟨rest, hrest, h⟩
    rwa [withoutPrefix_eq_iff.2 hrest]

/-! ## Requests -/

structure Presents (r : Http.Request) (t : String) : Prop where
  ne_empty : t ≠ ""
  held : ∃ value text rest, Http.Headers.IsFirst "authorization" r.headers value ∧
    Spells value text ∧ Unlabelled "Bearer ".toList text rest ∧ Text.TrimsTo rest t.toList

theorem presented?_eq_some_iff {r : Http.Request} {t : String} :
    presented? r = some t ↔ Presents r t := by
  unfold presented?
  rw [Option.filter_eq_some_iff, Option.map_eq_some_iff]
  constructor
  · rintro ⟨⟨text, hread, htoken⟩, hne⟩
    obtain ⟨value, hvalue, htext⟩ := Option.bind_eq_some_iff.1 hread
    obtain ⟨rest, hrest, htrim⟩ := token_eq_iff.1 htoken
    exact ⟨by simpa using hne, value, text.toList, rest, Http.Headers.get?_eq_some_iff.1 hvalue,
      readable?_eq_some_iff.1 htext, hrest, htrim⟩
  · rintro ⟨hne, value, text, rest, hvalue, htext, hrest, htrim⟩
    refine ⟨⟨String.ofList text, ?_, token_eq_iff.2 ⟨rest, ?_, htrim⟩⟩, by simpa using hne⟩
    · rw [Option.bind_eq_some_iff]
      refine ⟨value, Http.Headers.get?_eq_some_iff.2 hvalue, readable?_eq_some_iff.2 ?_⟩
      rwa [String.toList_ofList]
    · rwa [String.toList_ofList (l := text)]

/-- A request presents one token at most. -/
theorem Presents.unique {r : Http.Request} {t t' : String} (h : Presents r t)
    (h' : Presents r t') : t' = t := by
  rw [← presented?_eq_some_iff] at h h'
  rw [h] at h'
  exact (Option.some.inj h').symm

/-! ## Denials -/

theorem deny?_eq_none_iff {t : String} {r : Http.Request} :
    deny? t r = none ↔ Presents r t := by
  rw [← presented?_eq_some_iff, deny?]
  cases presented? r <;> simp

theorem deny?_eq_missing_iff {t : String} {r : Http.Request} :
    deny? t r = some .missing ↔ ¬∃ t', Presents r t' := by
  simp only [← presented?_eq_some_iff, deny?]
  cases presented? r <;> simp

theorem deny?_eq_invalid_iff {t : String} {r : Http.Request} :
    deny? t r = some .invalid ↔ ∃ t', Presents r t' ∧ t' ≠ t := by
  simp only [← presented?_eq_some_iff, deny?]
  cases presented? r <;> simp

/-- Nothing but its headers decides whether a request is let in. -/
theorem deny?_of_headers {t : String} {r r' : Http.Request}
    (headers : r'.headers = r.headers) : deny? t r' = deny? t r := by
  rw [deny?, deny?, presented?, presented?, headers]

end Access

end Vigil

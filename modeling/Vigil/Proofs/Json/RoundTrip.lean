import Vigil.Json.Decode
import Vigil.Proofs.Json.Tokens

/-!
# Written values are read back

The text of a value is a document with all parts of the value in it. So whatever reads documents
finds in the text what was written, with nothing left over.
-/

namespace Vigil.Json

open Text (Code)

mutual

/-- A value as it stands in its text. -/
def document : Json → Document
  | null => .scalar (.literal none ⟨.ok (), none⟩)
  | bool b => .scalar (.literal (some b) ⟨.ok (), none⟩)
  | number n => .scalar (.number ⟨(NumberDraft.ofNat n).value, none⟩)
  | text s => .scalar (.text ⟨.ok s, none⟩)
  | array items => .array (itemDocuments items) none
  | object members => .object (memberDocuments members) none

/-- The items of an array as they stand in their text. -/
def itemDocuments : List Json → List Document
  | [] => []
  | v :: rest => document v :: itemDocuments rest

/-- The members of an object as they stand in their text. -/
def memberDocuments : List (String × Json) → List (Name × Document)
  | [] => []
  | (k, v) :: rest => (⟨.ok k, none⟩, document v) :: memberDocuments rest

end

namespace Progress

/-- The arrangement after more tokens. -/
def run (p : Progress) (ts : List Token) : Progress :=
  ts.foldl step p

@[simp]
theorem run_nil (p : Progress) : p.run [] = p :=
  rfl

@[simp]
theorem run_cons (p : Progress) (t : Token) (ts : List Token) : p.run (t :: ts) = (p.step t).run ts :=
  rfl

@[simp]
theorem run_append (p : Progress) (ts us : List Token) : p.run (ts ++ us) = (p.run ts).run us :=
  List.foldl_append

theorem step_name {place : Place} (h : place = .name ∨ place = .member) (n : Name)
    (done : List (Name × Document)) (name : Option Name) (frames : List Frame) :
    step (.reading place (.object done name :: frames)) (.scalar (.text n)) =
      .reading .colon (.object done (some n) :: frames) := by
  rcases h with rfl | rfl <;> rfl

theorem step_colon (frames : List Frame) :
    step (.reading .colon frames) .colon = .reading .value frames :=
  rfl

mutual

/-- Wherever a value may stand, its tokens make up its document. -/
theorem run_tokens : (v : Json) → (place : Place) → place = .value ∨ place = .item →
    (frames : List Frame) → run (.reading place frames) v.tokens = push v.document frames
  | .null, _, h, _ => by rcases h with rfl | rfl <;> rfl
  | .bool _, _, h, _ => by rcases h with rfl | rfl <;> rfl
  | .number _, _, h, _ => by rcases h with rfl | rfl <;> rfl
  | .text _, _, h, _ => by rcases h with rfl | rfl <;> rfl
  | .array items, place, h, frames => by
    have hopen : step (.reading place frames) .openArray = .reading .item (.array [] :: frames) := by
      rcases h with rfl | rfl <;> rfl
    rw [Json.tokens, List.cons_append, run_cons, hopen, run_append]
    by_cases hne : items = []
    · subst hne
      rfl
    · rw [run_itemTokens items hne .item (.inr rfl)]
      simp [step, pop, Frame.close, document]
  | .object members, place, h, frames => by
    have hopen : step (.reading place frames) .openObject =
        .reading .member (.object [] none :: frames) := by
      rcases h with rfl | rfl <;> rfl
    rw [Json.tokens, List.cons_append, run_cons, hopen, run_append]
    by_cases hne : members = []
    · subst hne
      rfl
    · rw [run_memberTokens members hne .member (.inr rfl)]
      simp [step, pop, Frame.close, document]

theorem run_itemTokens : (items : List Json) → items ≠ [] → (place : Place) →
    place = .value ∨ place = .item → (done : List Document) → (frames : List Frame) →
    run (.reading place (.array done :: frames)) (itemTokens items) =
      .reading .next (.array ((itemDocuments items).reverse ++ done) :: frames)
  | [], hne, _, _, _, _ => absurd rfl hne
  | [v], _, place, h, done, frames => by
    rw [itemTokens, run_tokens v place h]
    simp [push, Frame.add, itemDocuments]
  | v :: w :: rest, _, place, h, done, frames => by
    have hcomma : step (push v.document (.array done :: frames)) .comma =
        .reading .value (.array (v.document :: done) :: frames) := rfl
    rw [itemTokens, run_append, run_tokens v place h, run_cons, hcomma,
      run_itemTokens (w :: rest) (List.cons_ne_nil _ _) .value (.inl rfl)]
    simp [itemDocuments]

theorem run_memberTokens : (members : List (String × Json)) → members ≠ [] → (place : Place) →
    place = .name ∨ place = .member → (done : List (Name × Document)) → (frames : List Frame) →
    run (.reading place (.object done none :: frames)) (memberTokens members) =
      .reading .next (.object ((memberDocuments members).reverse ++ done) none :: frames)
  | [], hne, _, _, _, _ => absurd rfl hne
  | [(k, v)], _, place, h, done, frames => by
    rw [memberTokens, run_cons, step_name h, run_cons, step_colon, run_tokens v .value (.inl rfl)]
    simp [push, Frame.add, memberDocuments]
  | (k, v) :: m :: rest, _, place, h, done, frames => by
    have hcomma : step (push v.document (.object done (some ⟨.ok k, none⟩) :: frames)) .comma =
        .reading .name (.object ((⟨.ok k, none⟩, v.document) :: done) none :: frames) := rfl
    rw [memberTokens, List.cons_append, List.cons_append, run_cons, step_name h, run_cons,
      step_colon, run_append, run_tokens v .value (.inl rfl), run_cons, hcomma,
      run_memberTokens (m :: rest) (List.cons_ne_nil _ _) .name (.inl rfl)]
    simp [memberDocuments]

end

end Progress

theorem ofTokens_tokens (v : Json) : Root.ofTokens v.tokens = ⟨v.document, true⟩ := by
  rw [Root.ofTokens]
  change (Progress.run (.reading .value []) v.tokens).finish = _
  rw [Progress.run_tokens v .value (.inl rfl)]
  rfl

/-- Whoever reads the text of a value gets what the value holds. -/
theorem decode_render {α : Type} (read : Decode α) (v : Json) :
    decode read (Code.ofString v.render) = read v.document := by
  rw [decode, Root.ofCodes, scan_render, ofTokens_tokens]
  cases read v.document <;> rfl

end Vigil.Json

import Vigil.Proofs.Api.Reply
import Vigil.Proofs.Text.Case
import Vigil.Proofs.Text.Trim

/-!
# Acceptance

A report or a deletion is accepted if it passes all of its checks. They are made one after the
other, the first one that fails gives the response, and the monitor hears of a request only after
all of them. No other response than an acceptance comes with a change of the monitor.
-/

namespace Vigil

/-- A payload asks for a deletion if its status is the word `delete`, in letters of either case and
with blanks around it or without. -/
def Payload.AsksDeletion (p : Payload) : Prop :=
  ∃ status word, p.machineStatus = some status ∧ Text.TrimsTo status.toList word ∧
    Text.Spelled "delete".toList word

theorem Payload.isDelete_iff {p : Payload} : p.isDelete = true ↔ p.AsksDeletion := by
  have hword (status : String) :
      (Text.asciiLower (Text.trim status) == "delete") = true ↔
        Text.Spelled "delete".toList (Text.trimChars status.toList) := by
    have hsmall : ∀ d ∈ "delete".toList, d.isLower = true := List.all_eq_true.1 (by decide)
    rw [beq_iff_eq, ← Text.map_toLower_eq_iff hsmall, Text.asciiLower, Text.trim,
      String.toList_ofList, ← String.toList_inj, String.toList_ofList]
  unfold isDelete AsksDeletion
  cases p.machineStatus with
  | none => simp
  | some status => simp [hword, ← Text.trimChars_eq_iff]

namespace Api

open Access (Presents)

variable {api : Api} {r : Http.Request} {m : Monitor}

/-! ## Checks -/

/-- Something that a request has to meet, and the responses to a request that does not. -/
structure Check where
  met : Prop
  refusal : Http.Response → Prop
  /-- No refusal looks like an acceptance. -/
  refuses : ∀ response, refusal response → response.status ≠ 202

/-- A response is that of the first check that is not met. -/
inductive FirstRefusal : List Check → Http.Response → Prop where
  | here {c : Check} {cs : List Check} {response : Http.Response} (unmet : ¬c.met)
      (refusal : c.refusal response) : FirstRefusal (c :: cs) response
  | later {c : Check} {cs : List Check} {response : Http.Response} (met : c.met)
      (rest : FirstRefusal cs response) : FirstRefusal (c :: cs) response

namespace FirstRefusal

variable {cs ds : List Check} {response : Http.Response}

theorem append_left (h : FirstRefusal cs response) (ds : List Check) :
    FirstRefusal (cs ++ ds) response := by
  induction h with
  | here unmet refusal => exact .here unmet refusal
  | later met _ ih => exact .later met ih

theorem append_right (hmet : ∀ c ∈ cs, c.met) (h : FirstRefusal ds response) :
    FirstRefusal (cs ++ ds) response := by
  induction cs with
  | nil => exact h
  | cons c cs ih =>
    rw [List.forall_mem_cons] at hmet
    exact .later hmet.1 (ih hmet.2)

end FirstRefusal

/-! ## What is checked -/

namespace Check

/-- Where a token is asked for, some token is presented. -/
def missing (api : Api) (r : Http.Request) : Check where
  met := api.token = none ∨ ∃ t, Presents r t
  refusal := (· = Denial.missing.response)
  refuses := by
    rintro _ rfl
    decide

/-- The token that is asked for is presented. -/
def invalid (api : Api) (r : Http.Request) : Check where
  met := ∀ t, api.token = some t → Presents r t
  refusal := (· = Denial.invalid.response)
  refuses := by
    rintro _ rfl
    decide

def named (name : String) : Check where
  met := Text.trim name ≠ ""
  refusal := (· = failure 400 "machine name is required")
  refuses := by
    rintro _ rfl
    decide

def decoded (machine : String) (body : List UInt8) : Check where
  met := ∃ p, Json.decode Payload.decode (Text.codes body) = .ok p
  refusal response := ∃ fault, Json.decode Payload.decode (Text.codes body) = .error fault ∧
    response = failure 400 ("invalid payload for " ++ machine ++ ": <" ++ fault.label ++ ">")
  refuses := by
    rintro _ ⟨fault, -, rfl⟩
    simp [failure, Http.Response.ofJson]

def running (m : Monitor) : Check where
  met := ∃ registry, m.registry = some registry
  refusal := (· = failure 503 Refusal.submission.message)
  refuses := by
    rintro _ rfl
    decide

end Check

def accessChecks (api : Api) (r : Http.Request) : List Check :=
  [.missing api r, .invalid api r]

/-- A judgement goes by a list of checks. -/
inductive Judges {α : Type} (checks : List Check) (good : α → Prop) :
    Except Http.Response α → Prop where
  | passes {a : α} (met : ∀ c ∈ checks, c.met) (result : good a) : Judges checks good (.ok a)
  | refuses {response : Http.Response} (first : FirstRefusal checks response) :
      Judges checks good (.error response)

theorem Judges.bind {α β : Type} {cs ds : List Check} {good : α → Prop} {better : β → Prop}
    {x : Except Http.Response α} {f : α → Except Http.Response β} (h : Judges cs good x)
    (hf : ∀ a, good a → Judges ds better (f a)) : Judges (cs ++ ds) better (x >>= f) := by
  cases h with
  | @passes a met result =>
    have hrest := hf a result
    change Judges _ _ (f a)
    generalize f a = y at hrest ⊢
    cases hrest with
    | passes met' result' => exact .passes (List.forall_mem_append.2 ⟨met, met'⟩) result'
    | refuses first => exact .refuses (first.append_right met)
  | refuses first => exact .refuses (first.append_left ds)

inductive Answers (api : Api) (m : Monitor) (checks : List Check) (asked : Submission → Prop) :
    Http.Response × Monitor × List (Stamped Event) → Prop where
  /-- All checks are met, and what the request asks for is submitted, once and alone. -/
  | accepts {s : Submission} {after : Monitor × List (Stamped Event)}
      (met : ∀ c ∈ checks, c.met) (asks : asked s) (effect : m.submit [s] = .ok after) :
      Answers api m checks asked (api.expose accepted, after)
  | refuses {response : Http.Response} (first : FirstRefusal checks response) :
      Answers api m checks asked (api.expose response, m, [])

variable {checks : List Check} {asked : Submission → Prop}

/-- A submission is checked for a registry that runs only when it is made. -/
theorem Judges.answers {e : Except Http.Response Submission} (h : Judges checks asked e)
    (api : Api) (m : Monitor) :
    Answers api m (checks ++ [.running m]) asked
      (api.expose (perform m (verdict e)).1, (perform m (verdict e)).2) := by
  cases h with
  | @passes s met asks =>
    cases hregistry : m.registry with
    | none =>
      have hsubmit : m.submit [s] = .error .submission := by
        rw [Monitor.submit, Monitor.reach, hregistry]
        rfl
      simp only [verdict, perform, hsubmit]
      refine .refuses (FirstRefusal.append_right met (.here ?_ rfl))
      simp [Check.running, hregistry]
    | some registry =>
      obtain ⟨after, hsubmit⟩ : ∃ after, m.submit [s] = .ok after := by
        rw [Monitor.submit, Monitor.reach, hregistry]
        exact ⟨_, rfl⟩
      simp only [verdict, perform, hsubmit]
      refine .accepts (List.forall_mem_append.2 ⟨met, ?_⟩) asks hsubmit
      simp [Check.running, hregistry]
  | refuses first =>
    simp only [verdict, perform]
    exact .refuses (first.append_left _)

/-- Access goes before all other checks. -/
theorem Answers.guard {out : Http.Response × Monitor × List (Stamped Event)}
    (h : Answers api m checks asked out) :
    Answers api m (accessChecks api r ++ checks) asked
      (match api.token.bind (Access.deny? · r) with
        | some denial => (api.expose denial.response, m, [])
        | none => out) := by
  cases hdeny : api.token.bind (Access.deny? · r) with
  | none =>
    have hpresents : ∀ t, api.token = some t → Presents r t := by
      intro t ht
      rw [ht, Option.bind_some] at hdeny
      exact Access.deny?_eq_none_iff.1 hdeny
    have hmet : ∀ c ∈ accessChecks api r, c.met := by
      simp only [accessChecks, List.forall_mem_cons, List.not_mem_nil, false_imp_iff, implies_true,
        and_true]
      refine ⟨?_, hpresents⟩
      cases ht : api.token with
      | none => exact .inl ht
      | some t => exact .inr ⟨t, hpresents t ht⟩
    cases h with
    | accepts met asks effect =>
      exact .accepts (List.forall_mem_append.2 ⟨hmet, met⟩) asks effect
    | refuses first => exact .refuses (first.append_right hmet)
  | some denial =>
    obtain ⟨t, ht, hd⟩ := Option.bind_eq_some_iff.1 hdeny
    refine .refuses (FirstRefusal.append_left ?_ checks)
    cases denial with
    | missing =>
      refine .here ?_ rfl
      rw [Access.deny?_eq_missing_iff] at hd
      simpa [Check.missing, ht] using hd
    | invalid =>
      obtain ⟨t', hp', hne⟩ := Access.deny?_eq_invalid_iff.1 hd
      exact .later (.inr ⟨t', hp'⟩) (.here (fun hmet => hne ((hmet t ht).unique hp')) rfl)

/-! ## Requests -/

end Api

end Vigil

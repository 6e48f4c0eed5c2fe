import Vigil.Api.Dashboard
import Vigil.Proofs.Api.Guard
import Vigil.Proofs.Json.RoundTrip
import Vigil.Proofs.Text.Utf8

/-!
# What is sent is read back

A client of the dashboard and whoever asks for the list of machines get snapshots as texts. Such a
text is read back as the very snapshot that was written, whatever the machines are called.
-/

namespace Vigil

/-! ## Documents of written values -/

namespace Json.Decode

theorem mapM_document {α : Type} {read : Decode α} {write : α → Json}
    (h : ∀ a, read (write a).document = .ok a) (as : List α) :
    (itemDocuments (as.map write)).mapM read = .ok as := by
  induction as with
  | nil => rfl
  | cons a as ih =>
    rw [List.map_cons, itemDocuments, List.mapM_cons, h, ih]
    rfl

theorem list_document {α : Type} {read : Decode α} {write : α → Json}
    (h : ∀ a, read (write a).document = .ok a) (as : List α) :
    list read (Json.array (as.map write)).document = .ok as := by
  rw [document, list, mapM_document h]
  rfl

/-- Whoever reads the bytes of a value gets what the value holds. -/
theorem decode_utf8 {α : Type} (read : Decode α) (v : Json) :
    decode read (Text.codes (Text.utf8 v.render)) = read v.document := by
  rw [Text.codes_utf8, decode_render]

section Members

variable {σ : Type} {fields : List (RecordField σ)} {stop : Option Stop} {state : σ}
variable {name : String} {d : Document} {rest : List (Name × Document)}

theorem readMembers_field (state' : σ) {field : RecordField σ}
    (hfield : fields.find? (·.name == name) = some field) (hfresh : field.given state = false)
    (hread : field.read state d = .ok state') :
    readMembers fields stop state ((⟨.ok name, none⟩, d) :: rest) =
      readMembers fields stop state' rest := by
  simp only [readMembers, bind, Except.bind, hfield, hfresh, hread, Bool.false_eq_true, if_false]

/-- A member that is no field of a record does not count. -/
theorem readMembers_other (hother : fields.find? (·.name == name) = none)
    (hskip : d.skip = none) :
    readMembers fields stop state ((⟨.ok name, none⟩, d) :: rest) =
      readMembers fields stop state rest := by
  simp only [readMembers, bind, Except.bind, hother, hskip]

end Members

end Json.Decode

/-! ## Snapshots -/

theorem Summary.decode_document (s : Summary) : decode s.toJson.document = .ok s := by
  obtain ⟨name, rung⟩ := s
  cases rung <;> rfl

namespace Snapshot

theorem read_probes (probes : List Summary) (rest : List (Json.Name × Json.Document)) :
    Json.Decode.readMembers fields none none ((⟨.ok "probes", none⟩,
        (Json.array (probes.map Summary.toJson)).document) :: rest) =
      Json.Decode.readMembers fields none (some probes) rest := by
  refine Json.Decode.readMembers_field _ rfl rfl ?_
  simp only [Json.Decode.list_document Summary.decode_document]
  rfl

theorem decode_document (s : Snapshot) : decode s.toJson.document = .ok s := by
  have hread : Json.Decode.record fields none s.toJson.document = .ok (some s.probes) :=
    read_probes s.probes []
  rw [decode, hread]
  rfl

end Snapshot

/-! ## The list of all machines -/

/-- The list of all machines as whoever asks for it reads it. -/
structure Listing where
  probes : List Summary
  total : Nat

namespace Listing

structure Draft where
  probes : Option (List Summary)
  total : Option Nat

open Json.Decode in
def fields : List (RecordField Draft) :=
  [⟨"probes", (·.probes.isSome),
      fun d v => do return { d with probes := some (← list Summary.decode v) }, false⟩,
    ⟨"total", (·.total.isSome),
      fun d v => do return { d with total := some (← natural Positional.word64 v) }, false⟩]

def decode : Json.Decode Listing := fun v => do
  let d ← Json.Decode.record fields ⟨none, none⟩ v
  return ⟨← Json.Decode.required d.probes, ← Json.Decode.required d.total⟩

/-- The list of all machines as it is written. -/
def ofSnapshot (s : Snapshot) : Json :=
  .object [("probes", .array (s.probes.map Summary.toJson)), ("total", .number s.probes.length)]

theorem decode_document {s : Snapshot} (h : s.probes.length < Positional.word64) :
    decode (ofSnapshot s).document = .ok ⟨s.probes, s.probes.length⟩ := by
  have htotal : Json.Decode.natural Positional.word64 (Json.number s.probes.length).document =
      .ok s.probes.length := by
    rw [Json.document, Json.NumberDraft.value_ofNat h, Json.Decode.natural, if_pos h]
  have hread : Json.Decode.record fields ⟨none, none⟩ (ofSnapshot s).document =
      .ok ⟨some s.probes, some s.probes.length⟩ := by
    refine (Json.Decode.readMembers_field ⟨some s.probes, none⟩ rfl rfl ?_).trans
      (Json.Decode.readMembers_field _ rfl rfl ?_)
    · simp only [Json.Decode.list_document Summary.decode_document]
      rfl
    · simp only [htotal]
      rfl
  rw [decode, hread]
  rfl

/-- Where a snapshot is looked for, the number of the machines does not count. -/
theorem decode_snapshot (s : Snapshot) : Snapshot.decode (ofSnapshot s).document = .ok s := by
  have hread : Json.Decode.record Snapshot.fields none (ofSnapshot s).document =
      .ok (some s.probes) :=
    (Snapshot.read_probes s.probes _).trans (Json.Decode.readMembers_other rfl rfl)
  rw [Snapshot.decode, hread]
  rfl

end Listing

namespace Api

open Access (Presents)

variable {api : Api} {r : Http.Request} {m : Monitor} {registry : Registry}

theorem body_expose (api : Api) (response : Http.Response) :
    (api.expose response).body = response.body := by
  unfold expose
  split <;> rfl

/-- A request that is let in gets the list of all machines. -/
theorem handle_probes (h : Protected api r .probes)
    (hpresents : ∀ t, api.token = some t → Presents r t) (hregistry : m.registry = some registry)
    (upgradable : Bool) :
    (api.handle upgradable r m).1 = api.expose (listing registry.snapshot) := by
  have hlisting : (perform m (judgeRoute upgradable r .probes)).1 = listing registry.snapshot := by
    simp only [judgeRoute, perform, Monitor.snapshot, Monitor.reach, hregistry]
    rfl
  have hopen : api.token.bind (Access.deny? · r) = none := by
    cases ht : api.token with
    | none => rfl
    | some t => exact Access.deny?_eq_none_iff.2 (hpresents t ht)
  rw [h.handle_eq, hopen, ← hlisting]

/-- A text goes to a client of the dashboard for a snapshot, and is read back as the snapshot. -/
structure SentSpec (s : Snapshot) (text : String) : Prop where
  frame_eq : (Frame.snapshot s).write = Websocket.write ⟨.text, Text.utf8 text⟩
  text_eq : Text.text? (Text.utf8 text) = some text
  decode_eq : Json.decode Snapshot.decode (Text.codes (Text.utf8 text)) = .ok s

/-- A response lists all machines of a snapshot and tells how many there are. -/
structure ListedSpec (s : Snapshot) (response : Http.Response) : Prop where
  status_eq : response.status = 200
  decode_eq : Json.decode Snapshot.decode (Text.codes (Text.utf8 response.body.render)) = .ok s
  /-- A number is read if it fits into a word, as the length of any list in memory does. -/
  total_eq : s.probes.length < Positional.word64 →
    Json.decode Listing.decode (Text.codes (Text.utf8 response.body.render)) =
      .ok ⟨s.probes, s.probes.length⟩

theorem sent (s : Snapshot) : SentSpec s s.toJson.render where
  frame_eq := rfl
  text_eq := Text.text?_utf8 _
  decode_eq := by rw [Json.Decode.decode_utf8, s.decode_document]

theorem listed (s : Snapshot) : ListedSpec s (api.expose (listing s)) := by
  have hbody : (api.expose (listing s)).body.render = (Listing.ofSnapshot s).render := by
    rw [body_expose]
    rfl
  refine ⟨?_, ?_, fun hlength => ?_⟩
  · rw [status_expose]
    rfl
  · rw [hbody, Json.Decode.decode_utf8, Listing.decode_snapshot]
  · rw [hbody, Json.Decode.decode_utf8, Listing.decode_document hlength]

/-- Whatever is told of the machines is read back as it was told: what clients of the dashboard get,
and what anyone gets who may ask for the list of all machines. -/
theorem snapshots_read_back :
    (∀ s : Snapshot, ∃ text, SentSpec s text) ∧
      ∀ (api : Api) (r : Http.Request) (m : Monitor) (registry : Registry) (upgradable : Bool),
        Protected api r .probes → (∀ t, api.token = some t → Presents r t) →
          m.registry = some registry →
            ListedSpec registry.snapshot (api.handle upgradable r m).1 := by
  refine ⟨fun s => ⟨_, sent s⟩, fun api r m registry upgradable h hpresents hregistry => ?_⟩
  rw [handle_probes h hpresents hregistry]
  exact listed registry.snapshot

/-- A machine whose name holds a quotation mark, a backslash, a control character and a character
that takes four bytes. -/
theorem snapshots_read_back_of_odd_name :
    let name := "a\"\\\u0001𝄞b"
    let registry := ((Registry.start ⟨⟨1000⟩, ⟨1, 1, 1⟩, none, 0⟩ false 0).ingest 0
      [.report name .empty]).1
    let get : Http.Request := ⟨"GET", "/probes", [], []⟩
    let response := (Api.handle ⟨none, false, false⟩ true get ⟨0, some registry⟩).1
    registry.snapshot = ⟨[⟨name, .normal⟩]⟩ ∧
      (∃ text, SentSpec registry.snapshot text) ∧ ListedSpec registry.snapshot response ∧
        Json.decode Listing.decode (Text.codes (Text.utf8 response.body.render)) =
          .ok ⟨[⟨name, .normal⟩], 1⟩ := by
  intro name registry get response
  have hsnapshot : registry.snapshot = ⟨[⟨name, .normal⟩]⟩ := by decide +kernel
  have hroute : Route.ofPath? false get.path = some .probes := by decide +kernel
  have hlisted : ListedSpec registry.snapshot response :=
    snapshots_read_back.2 _ _ _ registry true (.probes hroute rfl) nofun rfl
  have hdecode := hlisted.total_eq (by rw [hsnapshot]; decide)
  rw [hsnapshot] at hdecode
  exact ⟨hsnapshot, snapshots_read_back.1 _, hlisted, hdecode⟩

end Api

end Vigil

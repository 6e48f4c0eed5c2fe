import Vigil.Api.Service
import Vigil.Proofs.Api.Guard
import Vigil.Proofs.Text.Utf8

/-!
# Who gets in with the configured token

The token is asked for as it is configured, while what a request presents has lost the word `Bearer`
in front and the blanks around it. So a token with a blank at an end lets nobody in, and one that
begins with the word has to have the word put in front once more.
-/

namespace Vigil

open Text (Printable Bare TrimsTo)

/-! ## What a printable header presents -/

namespace Access

variable {r : Http.Request} {s t : String}

theorem spells_utf8 (h : Printable s.toList) : Spells (Text.utf8 s) s.toList := by
  have hbyte : ∀ c ∈ s.toList, (UInt8.ofNat c.toNat).toNat = c.toNat := fun c hc =>
    Text.toNat_ofNat_of_lt (Nat.lt_of_le_of_lt (h c hc).2 (by decide))
  rw [h.utf8_eq]
  refine ⟨fun b hb => ?_, ?_⟩
  · obtain ⟨c, hc, rfl⟩ := List.mem_map.1 hb
    refine .inr ⟨?_, ?_⟩
    · rw [UInt8.le_iff_toNat_le, hbyte c hc]
      exact (h c hc).1
    · rw [UInt8.lt_iff_toNat_lt, hbyte c hc]
      exact Nat.lt_succ_of_le (h c hc).2
  · rw [List.map_map]
    refine (List.map_congr_left fun c hc => ?_).trans (List.map_id _)
    rw [Function.comp_apply, hbyte c hc, Char.ofNat_toNat, id]

theorem presents_iff_of_first
    (hfirst : Http.Headers.IsFirst "authorization" r.headers (Text.utf8 s))
    (hs : Printable s.toList) :
    Presents r t ↔
      t ≠ "" ∧ ∃ rest, Unlabelled "Bearer ".toList s.toList rest ∧ TrimsTo rest t.toList := by
  constructor
  · rintro ⟨hne, value, text, rest, hvalue, htext, hrest, htrim⟩
    obtain rfl : Text.utf8 s = value := by
      rw [← Http.Headers.get?_eq_some_iff] at hfirst hvalue
      exact Option.some.inj (hfirst.symm.trans hvalue)
    obtain rfl : s.toList = text := (spells_utf8 hs).text_eq.symm.trans htext.text_eq
    exact ⟨hne, rest, hrest, htrim⟩
  · rintro ⟨hne, rest, hrest, htrim⟩
    exact ⟨hne, _, _, rest, hfirst, spells_utf8 hs, hrest, htrim⟩

variable (hne : t ≠ "") (ht : Printable t.toList)

include hne ht

/-- After the word `Bearer` a token is presented if it has no blank at either end. -/
theorem presents_labelled_iff
    (hfirst : Http.Headers.IsFirst "authorization" r.headers (Text.utf8 ("Bearer " ++ t))) :
    Presents r t ↔ Bare t.toList := by
  have hs : Printable ("Bearer " ++ t).toList := by
    have hword : Printable "Bearer ".toList := by decide
    rw [String.toList_append]
    exact List.forall_mem_append.2 ⟨hword, ht⟩
  rw [presents_iff_of_first hfirst hs, String.toList_append]
  constructor
  · rintro ⟨-, rest, hrest | ⟨-, hno⟩, htrim⟩
    · rw [← List.append_cancel_left hrest] at htrim
      exact htrim.bare
    · exact absurd (List.prefix_append _ _) hno
  · exact fun hbare => ⟨hne, _, .inl rfl, Text.trimsTo_self_iff.2 hbare⟩

/-- Alone a token is presented if besides it does not begin with the word. -/
theorem presents_alone_iff
    (hfirst : Http.Headers.IsFirst "authorization" r.headers (Text.utf8 t)) :
    Presents r t ↔ Bare t.toList ∧ ¬"Bearer ".toList <+: t.toList := by
  rw [presents_iff_of_first hfirst ht]
  constructor
  · rintro ⟨-, rest, hrest | ⟨rfl, hno⟩, htrim⟩
    · have hlength := htrim.length_le
      rw [hrest, List.length_append] at hlength
      change 7 + rest.length ≤ rest.length at hlength
      omega
    · exact ⟨htrim.bare, hno⟩
  · exact fun ⟨hbare, hno⟩ => ⟨hne, _, .inr ⟨rfl, hno⟩, Text.trimsTo_self_iff.2 hbare⟩

end Access

namespace Api

open Access (Presents)

variable {api : Api} {upgradable : Bool} {r : Http.Request} {m : Monitor} {route : Route}
variable {t : String} {c : Config}

/-! ## Who gets in -/

/-- A request is dealt with as if no token were asked for. -/
def Admits (api : Api) (upgradable : Bool) (r : Http.Request) (m : Monitor) : Prop :=
  api.handle upgradable r m = Api.handle { api with token := none } upgradable r m

/-- A request is denied, and nothing else happens. -/
def TurnsAway (api : Api) (upgradable : Bool) (r : Http.Request) (m : Monitor) : Prop :=
  ∃ denial : Denial, api.handle upgradable r m = (api.expose denial.response, m, [])

/-- Nobody who is admitted is turned away. -/
theorem Protected.not_turnsAway (h : Protected api r route) (ha : Admits api upgradable r m) :
    ¬TurnsAway api upgradable r m := by
  rintro ⟨denial, hdenied⟩
  have hstatus := status_perform_judgeRoute m upgradable r route
  rw [Admits, hdenied, h.handle_open] at ha
  rw [← status_expose api, ← (Prod.mk.inj ha).1, status_expose] at hstatus
  revert hstatus
  cases denial <;> decide

theorem Protected.admits_iff (h : Protected api r route) (ht : api.token = some t) :
    Admits api upgradable r m ↔ Presents r t := by
  refine ⟨fun ha => ?_, fun hp => h.handle_of_presents ht hp upgradable m⟩
  cases hd : Access.deny? t r with
  | none => exact Access.deny?_eq_none_iff.1 hd
  | some denial => exact absurd ⟨denial, h.handle_of_deny ht hd upgradable m⟩ (h.not_turnsAway ha)

theorem Protected.turnsAway_iff (h : Protected api r route) (ht : api.token = some t) :
    TurnsAway api upgradable r m ↔ ¬Admits api upgradable r m := by
  refine ⟨fun hdenied ha => h.not_turnsAway ha hdenied, fun hno => ?_⟩
  rw [h.admits_iff ht, ← Access.deny?_eq_none_iff] at hno
  obtain ⟨denial, hd⟩ := Option.ne_none_iff_exists'.1 hno
  exact ⟨denial, h.handle_of_deny ht hd upgradable m⟩

theorem token_ofConfig (ht : c.authToken = some t) (hne : t ≠ "") :
    (Api.ofConfig c).token = some t := by
  simp [Api.ofConfig, ht, hne, Option.filter]

/-- What comes of a request to a guarded route with the token that is configured. -/
structure LoginSpec (c : Config) (t : String) (upgradable : Bool) (r : Http.Request)
    (m : Monitor) : Prop where
  labelled_iff :
    Http.Headers.IsFirst "authorization" r.headers (Text.utf8 ("Bearer " ++ t)) →
      (Admits (.ofConfig c) upgradable r m ↔ Bare t.toList)
  alone_iff :
    Http.Headers.IsFirst "authorization" r.headers (Text.utf8 t) →
      (Admits (.ofConfig c) upgradable r m ↔
        Bare t.toList ∧ ¬"Bearer ".toList <+: t.toList)
  turnsAway_iff :
    TurnsAway (.ofConfig c) upgradable r m ↔ ¬Admits (.ofConfig c) upgradable r m

/-- A configured token opens every guarded route, unless a blank stands at one of its ends. -/
theorem login_iff (ht : c.authToken = some t) (hne : t ≠ "") (hprintable : Printable t.toList)
    (h : Protected (.ofConfig c) r route) (upgradable : Bool) (m : Monitor) :
    LoginSpec c t upgradable r m := by
  have htoken := token_ofConfig ht hne
  refine ⟨fun hfirst => ?_, fun hfirst => ?_, h.turnsAway_iff htoken⟩
  · rw [h.admits_iff htoken, Access.presents_labelled_iff hne hprintable hfirst]
  · rw [h.admits_iff htoken, Access.presents_alone_iff hne hprintable hfirst]

/-- A deletion with the token in both forms. -/
theorem login_iff_of_deletion :
    let c : Config := { Config.default with authToken := some "a \" b" }
    let deletion (value : String) : Http.Request :=
      ⟨"DELETE", "/probe/web", [("Authorization", Text.utf8 value)], []⟩
    let m := Monitor.start ⟨⟨30000⟩, ⟨2, 3, 5⟩, none, 0⟩ false
    ∀ value ∈ ["Bearer a \" b", "a \" b"],
      LoginSpec c "a \" b" true (deletion value) m ∧ Admits (.ofConfig c) true (deletion value) m ∧
        (Api.handle (.ofConfig c) true (deletion value) m).1.status = 202 := by
  intro c deletion m value hvalue
  have hpath : Route.ofPath? true (deletion "").path = some (.probe "web") := by decide +kernel
  have hroute (value : String) : (Api.ofConfig c).route? (deletion value) = some (.probe "web") :=
    hpath
  have hlogin := login_iff (c := c) rfl (by decide) (by decide) (.delete (hroute value) rfl) true m
  have hbare : Bare "a \" b".toList := ⟨by rintro _ ⟨⟩; rfl, by rintro _ ⟨⟩; rfl⟩
  have hfirst : Http.Headers.IsFirst "authorization" (deletion value).headers (Text.utf8 value) :=
    ⟨[], "Authorization", [], rfl, by decide +kernel, nofun⟩
  have hadmits : Admits (.ofConfig c) true (deletion value) m := by
    obtain rfl | rfl : value = "Bearer a \" b" ∨ value = "a \" b" := by simpa using hvalue
    · exact (hlogin.labelled_iff hfirst).2 hbare
    · exact (hlogin.alone_iff hfirst).2 ⟨hbare, by decide⟩
  refine ⟨hlogin, hadmits, ?_⟩
  clear hlogin hfirst hadmits
  revert value
  decide +kernel

/-- A token with a blank in front opens nothing in either form, and one that begins with the word
`Bearer` opens nothing alone. -/
theorem turned_away_with_token :
    let config (token : String) : Config :=
      { Config.default with authToken := some token, dashboard := false }
    let get (value : String) : Http.Request :=
      ⟨"GET", "/probes", [("Authorization", Text.utf8 value)], []⟩
    let m := Monitor.start ⟨⟨30000⟩, ⟨2, 3, 5⟩, none, 0⟩ false
    ∀ p ∈ [(" abc", "Bearer  abc"), (" abc", " abc"), ("Bearer abc", "Bearer abc")],
      Printable p.1.toList ∧ Protected (.ofConfig (config p.1)) (get p.2) .probes ∧
        (Api.handle (.ofConfig (config p.1)) true (get p.2) m).1.status = 403 := by
  intro config get m p hp
  have hpath : Route.ofPath? false (get "").path = some .probes := by decide +kernel
  have hroute (token value : String) :
      (Api.ofConfig (config token)).route? (get value) = some .probes := hpath
  refine and_left_comm.1 ⟨.probes (hroute p.1 p.2) rfl, ?_⟩
  revert p
  decide +kernel

end Api

end Vigil

import Vigil.Alert.Discord
import Vigil.Event
import Vigil.Http.Status
import Vigil.Json.Decode

/-!
# Bindings of providers

A binding says which service takes the alerts of a slot, and how it is reached. It makes the request
for an alert and judges the reply.
-/

namespace Vigil

/-- The services that take alerts. -/
inductive Binding where
  | discord (url : String) (user : Option String)
  | webhook (url : String)
  | pagerDuty (key url : String)
  deriving DecidableEq, Repr

/-- A JSON document to be posted. -/
structure Post where
  url : String
  body : Json

/-- What comes back for a post. -/
structure Reply where
  status : Nat
  body : String
  deriving DecidableEq, Repr

/-- What becomes of an alert: what is noted meanwhile, and the cause if it is not delivered. -/
structure Delivery where
  notices : List Notice
  failure : Option String
  deriving DecidableEq, Repr

namespace Binding

def name : Binding → String
  | discord _ _ => "discord"
  | webhook _ => "webhook"
  | pagerDuty _ _ => "pagerduty"

/-- How grave an alert is in the terms of PagerDuty. -/
def pagerDutySeverity : Severity → String
  | .low => "warning"
  | .high | .panic => "critical"

/-- The key under which PagerDuty takes alerts together. -/
def dedupKey (a : Alert) : String :=
  a.category.name ++ "-" ++ a.name ++ "-" ++ a.severity.name

def body (timestamp : String) (a : Alert) : Binding → Json
  | discord _ user => (Discord.message user timestamp a).toJson
  | webhook _ =>
    .object
      [("category", .text a.category.name), ("name", .text a.name),
        ("severity", .text a.severity.name), ("message", .text a.message),
        ("timestamp", .text timestamp)]
  | pagerDuty key _ =>
    .object
      [("routing_key", .text key), ("event_action", .text "trigger"),
        ("dedup_key", .text (dedupKey a)),
        ("payload", .object
          [("summary", .text ("Sentinel - " ++ a.message)), ("source", .text a.name),
            ("severity", .text (pagerDutySeverity a.severity)), ("timestamp", .text timestamp)])]

def url : Binding → String
  | discord url _ | webhook url | pagerDuty _ url => url

def post (timestamp : String) (b : Binding) (a : Alert) : Post :=
  ⟨b.url, b.body timestamp a⟩

/-- The cause that nothing could be sent. -/
def unsent : Binding → String
  | discord _ _ => "failed to send Discord message"
  | webhook _ => "failed to send webhook request"
  | pagerDuty _ _ => "failed to send PagerDuty event"

def sent : Binding → Notice
  | discord _ _ => .discordSent
  | webhook _ => .webhookSent
  | pagerDuty _ _ => .pagerDutySent

/-- What a reply without success means. -/
def refused (r : Reply) : Binding → Delivery
  | discord _ _ =>
    ⟨[.discordRefused r.body],
      some ("Discord message failed with status: " ++ Http.describeStatus r.status)⟩
  | webhook _ => ⟨[], some ("webhook responded with status " ++ Http.describeStatus r.status)⟩
  | pagerDuty _ _ =>
    let status := Http.describeStatus r.status
    ⟨[], some ("PagerDuty responded with status " ++ status ++ ": " ++ r.body)⟩

/-- What a reply means, or that there is none. -/
def judge (b : Binding) : Option Reply → Delivery
  | none => ⟨[], some b.unsent⟩
  | some r => if Http.isSuccess r.status then ⟨[b.sent], none⟩ else b.refused r

/-! ## Reading -/

/-- What is read of a binding's fields so far. -/
structure Draft where
  url : Option String
  user : Option (Option String)
  key : Option String

/-- The field that says where a service is. -/
def urlField (optional : Bool) : Json.Decode.RecordField Draft :=
  ⟨"url", (·.url.isSome), fun d v => do return { d with url := some (← Json.Decode.text v) },
    optional⟩

def userField : Json.Decode.RecordField Draft :=
  ⟨"user_id", (·.user.isSome),
    fun d v => do return { d with user := some (← Json.Decode.nullable Json.Decode.text v) }, false⟩

/-- The field that holds a key of PagerDuty. -/
def keyField : Json.Decode.RecordField Draft :=
  ⟨"integration_key", (·.key.isSome),
    fun d v => do return { d with key := some (← Json.Decode.text v) }, false⟩

def draft (fields : List (Json.Decode.RecordField Draft)) : Json.Decode Draft :=
  Json.Decode.record fields ⟨none, none, none⟩

/-- Where PagerDuty takes events unless another place is given. -/
def defaultPagerDutyUrl : String :=
  "https://events.pagerduty.com/v2/enqueue"

def decodeDiscord : Json.Decode Binding := fun v => do
  let d ← draft [urlField false, userField] v
  return discord (← Json.Decode.required d.url) (d.user.getD none)

def decodeWebhook : Json.Decode Binding := fun v => do
  let d ← draft [urlField false] v
  return webhook (← Json.Decode.required d.url)

def decodePagerDuty : Json.Decode Binding := fun v => do
  let d ← draft [keyField, urlField true] v
  return pagerDuty (← Json.Decode.required d.key) (d.url.getD defaultPagerDutyUrl)

def decode : Json.Decode Binding :=
  Json.Decode.variant fun
    | "discord" => some (.holding decodeDiscord)
    | "webhook" => some (.holding decodeWebhook)
    | "pagerduty" => some (.holding decodePagerDuty)
    | _ => none

end Binding

end Vigil

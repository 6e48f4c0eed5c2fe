import Vigil.Alert

/-!
# Messages for Discord

A message has a content and embeds. What is absent or empty is left out of its JSON.
-/

namespace Vigil.Discord

/-- A named value in an embed. -/
structure EmbedField where
  name : String
  value : String
  inline : Bool
  deriving DecidableEq, Repr

structure Embed where
  title : Option String
  description : Option String
  color : Option Nat
  fields : List EmbedField
  footer : Option String
  timestamp : Option String
  deriving DecidableEq, Repr

structure Message where
  content : Option String
  embeds : List Embed
  deriving DecidableEq, Repr

def EmbedField.toJson (f : EmbedField) : Json :=
  .object [("name", .text f.name), ("value", .text f.value), ("inline", .bool f.inline)]

def nonempty (items : List Json) : Option Json :=
  if items.isEmpty then none else some (.array items)

def Embed.toJson (e : Embed) : Json :=
  .present
    [("title", e.title.map .text), ("description", e.description.map .text),
      ("color", e.color.map .number), ("fields", nonempty (e.fields.map EmbedField.toJson)),
      ("footer", e.footer.map fun text => .object [("text", .text text)]),
      ("timestamp", e.timestamp.map .text)]

namespace Message

/-- The message without content and embeds. -/
def empty : Message :=
  ⟨none, []⟩

def withContent (content : String) (m : Message) : Message :=
  { m with content := some content }

def addEmbed (e : Embed) (m : Message) : Message :=
  { m with embeds := m.embeds ++ [e] }

def toJson (m : Message) : Json :=
  .present
    [("content", m.content.map .text), ("embeds", nonempty (m.embeds.map Embed.toJson))]

end Message

/-- The title of an embed about an alert of the given severity. -/
def title : Severity → String
  | .low => "⚠️ Low Severity Alert"
  | .high => "🔥 High Severity Alert"
  | .panic => "🚨 Panic Alert"

/-- The colour of an embed about an alert of the given severity: orange, red or dark red. -/
def color : Severity → Nat
  | .low => 15105570
  | .high => 15158332
  | .panic => 10038562

/-- The name of the field that tells what an alert is about. -/
def entity : Category → String
  | .machine => "🖥️ Machine"
  | .service => "⚙️ Service"

def embed (timestamp : String) (a : Alert) : Embed where
  title := some (title a.severity)
  description := some a.message
  color := some (color a.severity)
  fields :=
    [⟨entity a.category, "`" ++ a.name ++ "`", true⟩, ⟨"📊 Severity", a.severity.name, true⟩]
  footer := some ("fleet-sentinel | " ++ a.category.name)
  timestamp := some timestamp

/-- The message about an alert, which mentions a user if there is one to be told. -/
def message (user : Option String) (timestamp : String) (a : Alert) : Message :=
  let m := Message.empty.addEmbed (embed timestamp a)
  match user with
  | some id => m.withContent ("🔴 `" ++ a.name ++ "` <@" ++ id ++ ">")
  | none => m

end Vigil.Discord

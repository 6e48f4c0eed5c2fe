import Vigil.Alert.Binding
import Vigil.Http.Wire
import Vigil.Net.Url

/-!
# Posting

What is posted and what comes back for it, on the wire.
-/

namespace Vigil

/-- The bytes of a request that posts a document at an address. -/
def Post.write (u : Url) (p : Post) : List UInt8 :=
  let body := Text.utf8 p.body.render
  let head :=
    ["POST " ++ u.target ++ " HTTP/1.1", "host: " ++ u.authority, "content-type: application/json",
      "accept: */*", "content-length: " ++ toString body.length, "connection: close", ""]
  Text.utf8 (String.join (head.map Http.line)) ++ body

/-- The reply that a message makes. Bytes of its body that are no text are replaced. -/
def Reply.ofMessage? (m : Http.Message) : Option Reply := do
  return ⟨← m.status?, Text.mend m.body⟩

end Vigil

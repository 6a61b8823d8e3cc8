/-
  Visits and what is answered to them as the bytes which are sent.

  * `Visit.ofBytes?` is the visit which bytes stand for;
  * `Response.bytes` are the bytes of an answer, after which the connection ends.
-/
import TailnetTargets.Message.Basic
import TailnetTargets.Service

namespace TailnetTargets

/-- The visit which bytes stand for. -/
def Visit.ofBytes? (bytes : List UInt8) : Option Visit := do
  let (head, _) ← Message.Head.ofBytes? bytes
  match Text.fields ' ' head.first with
  | [method, path, _] => some ⟨String.ofList method, String.ofList path⟩
  | _ => none

/-- The bytes of an answer. -/
def Response.bytes (r : Response) : List UInt8 :=
  Message.bytes s!"HTTP/1.1 {r.status} -"
    (Message.optional "content-type" r.contentType
      ++ [("content-length", toString r.body.utf8ByteSize), ("connection", "close")])
    r.body.toUTF8.toList

end TailnetTargets

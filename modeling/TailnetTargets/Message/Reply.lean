/-
  Requests and replies as the bytes which are sent.

  * `Request.bytes` are the bytes of a request;
  * `Reply.status?` is the status which the first line of a reply names;
  * `Reply.framing?` is how the end of its body is known;
  * `Reply.ofBytes` is the reply which bytes stand for.  A reply of a status below 200 only
    announces another one, unless it ends the conversation.

  `ofBytes_nil`: where nothing comes, no reply does.
-/
import TailnetTargets.Client.Request
import TailnetTargets.Message.Framing

namespace TailnetTargets

open Message

namespace Request

/-- The word by which a request says how it asks. -/
def methodText (r : Request) : String :=
  match r.method with
  | .get => "GET"
  | .post => "POST"

/-- The bytes of a request.  It is made by the oldest version of the rules which knows its fields,
    so the connection ends after the reply. -/
def bytes (r : Request) : List UInt8 :=
  Message.bytes s!"{r.methodText} {r.target} HTTP/1.0"
    ([("host", r.host)] ++ optional "accept" r.accept
      ++ optional "authorization" r.authorization
      ++ optional "content-type" r.contentType
      ++ optional "content-length" (r.body.map fun b => toString b.utf8ByteSize))
    (r.body.getD "").toUTF8.toList

end Request

namespace Reply

/-- Whether a line starts with the name of a version of the rules, and whether that is the newer
    one, with what follows. -/
def version? (line : List Char) : Option (Bool × List Char) :=
  if line.take 9 = "HTTP/1.1 ".toList then some (true, line.drop 9)
  else if line.take 9 = "HTTP/1.0 ".toList then some (false, line.drop 9)
  else none

/-- The status which the first line of a reply names, and whether the reply follows the newer
    version of the rules.  A status has three digits, and words may follow it. -/
def status? (line : List Char) : Option (Bool × Nat) := do
  let (isNew, rest) ← version? line
  let status ← Text.number? 10 (rest.take 3)
  guard (100 ≤ status)
  match rest.drop 3 with
  | [] => return (isNew, status)
  | ' ' :: words => if words.all isValueChar then return (isNew, status) else none
  | _ => none

/-- The length on which all the values of the field agree. -/
def length? (values : List (List Char)) : Option Nat := do
  let lengths ← (values.flatMap (Text.fields ',')).mapM fun v => Text.number? 10 (trim v)
  match lengths.eraseDups with
  | [n] => if n < Framing.lengthLimit then some n else none
  | _ => none

/-- Whether the last form in which a body is sent is that of pieces. -/
def isInPieces (forms : List (List Char)) : Bool :=
  ((forms.flatMap (Text.fields ',')).getLast?.map fun form => (trim form).map Char.toLower)
    = some "chunked".toList

/-- How the end of the body of a reply is known. -/
def framing? (isNew : Bool) (status : Nat) (head : Head) : Option Framing :=
  if status ∈ [101, 204, 304] then some (.exact 0)
  else
    match head.values "transfer-encoding", head.values "content-length" with
    | [], [] => some .untilEnd
    | [], lengths => (length? lengths).map .exact
    | forms, _ =>
      if !isNew then none else some (if isInPieces forms then .pieces else .untilEnd)

/-- The reply after at most `fuel` announcements. -/
def read? : Nat → List UInt8 → Option Reply
  | 0, _ => none
  | fuel + 1, bytes => do
    let (head, rest) ← Head.ofBytes? bytes
    let (isNew, status) ← status? head.first
    if status < 200 ∧ status ≠ 101 then read? fuel rest
    else
      let body := (← framing? isNew status head).read? rest
      return .answered status (body.getD []) body.isSome

/-- The reply which bytes stand for. -/
def ofBytes (bytes : List UInt8) : Reply := (read? bytes.length bytes).getD .dropped

/-- Where nothing comes, no reply does. -/
theorem ofBytes_nil : ofBytes [] = .dropped := rfl

end Reply

end TailnetTargets

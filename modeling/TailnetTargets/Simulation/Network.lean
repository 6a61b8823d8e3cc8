/-
  A network which answers as it was told beforehand.

  * `Reaction`: what the network does with a request;
  * `Network`: at which path something listens, and the reactions to come;
  * `Network.next` is the reaction to the next request and the network after it.  The last reaction
    is used again and again; where there is none, nothing is found;
  * `Network.receive` is what comes back for a request, and whether something listened to it.
    Nothing but the path is ever reached.
-/
import TailnetTargets.Discovery.World
import TailnetTargets.Message.Reply

namespace TailnetTargets

/-- What the network does with a request. -/
inductive Reaction where
  /-- it sends bytes and closes the connection -/
  | sends (bytes : List UInt8)
  /-- it never answers -/
  | silence
deriving DecidableEq, Repr

namespace Reaction

/-- It answers with a status and a body, of which some bytes may be missing. -/
def answer (status : Nat) (body : List UInt8) (missing : Nat) : Reaction :=
  .sends (Message.bytes s!"HTTP/1.1 {status} -"
    [("content-length", toString (body.length + missing))] body)

/-- It closes the connection without an answer. -/
def close : Reaction := .sends []

/-- What comes back, if anything ever does. -/
def reply? : Reaction → Option Reply
  | sends bytes => some (.ofBytes bytes)
  | silence => none

/-- Nothing is found. -/
def notFound : Reaction := answer 404 [] 0

end Reaction

/-- Where a path leads: whether it starts at the root of the file system, the steps which count, and
    the last one. -/
def placeOf (path : String) : Bool × List (List Char) × Option (List Char) :=
  let parts := Text.fields '/' path.toList
  (path.startsWith "/", parts.dropLast.filter fun part => !part.isEmpty && part ≠ ['.'],
    parts.getLast?)

/-- A network which answers as it was told beforehand. -/
structure Network where
  /-- the path at which something listens -/
  listener : Option String := none
  /-- the reactions to come -/
  reactions : List Reaction := []
deriving DecidableEq, Repr

namespace Network

/-- The reaction to the next request, and the network after it. -/
def next (n : Network) : Reaction × Network :=
  match n.reactions with
  | [] => (.notFound, n)
  | [reaction] => (reaction, n)
  | reaction :: rest => (reaction, { n with reactions := rest })

/-- Whether something listens to what is sent. -/
def reaches (n : Network) (s : Sent) : Bool :=
  match s.asked with
  | .localApi socket => n.listener.any fun path => placeOf path = placeOf socket
  | .publicApi _ _ => false

/-- What comes back for a request, if anything ever does, and the network after it. -/
def receive (n : Network) (s : Sent) : Option Reply × Network :=
  if n.reaches s then (n.next.1.reply?, n.next.2) else (some .refused, n)

end Network

end TailnetTargets

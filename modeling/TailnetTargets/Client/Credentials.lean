/-
  How requests to the public interface prove who sends them.

  * `Credentials`: an access token, or a client which is given short-lived tokens;
  * `Credentials.describe` shows credentials without their secrets.
-/
import TailnetTargets.Text.Quoted

namespace TailnetTargets

/-- What requests to the public interface prove themselves with. -/
inductive Credentials where
  /-- an access token -/
  | token (token : String)
  /-- a client, whose secret is exchanged for access tokens -/
  | client (id secret : String)
deriving DecidableEq, Repr

/-- The credentials without their secrets. -/
def Credentials.describe : Credentials → String
  | token _ => "Token(..)"
  | client id _ => "OAuth \x7b client_id: " ++ Text.quoted id ++ ", .. \x7d"

end TailnetTargets

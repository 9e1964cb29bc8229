import Repricing.Decimal.Layout
import Repricing.Text.Blank

/-!
# Money

Currencies are known by codes of three letters. Amounts of different currencies are never compared.
-/

namespace Repricing

/-- Whether a text is a currency code: three capital letters A to Z. -/
def isCurrencyCode (code : String) : Bool :=
  code.toList.length == 3 && code.toList.all Char.isUpper

/-- A currency, by its code. -/
structure Currency where
  code : String
  isCode : isCurrencyCode code = true
deriving DecidableEq

namespace Currency

/-- The Russian rouble. -/
def rub : Currency :=
  ⟨"RUB", by decide⟩

/-- Reads a currency code in any case, with blanks around it. -/
def read? (s : String) : Option Currency :=
  let code := String.ofList ((Text.trimmed s.toList).map Char.toUpper)
  if h : isCurrencyCode code then some ⟨code, h⟩ else none

end Currency

/-- An amount in the major unit of a currency. -/
structure Money where
  amount : Float
  currency : Currency
deriving DecidableEq

namespace Money

/-- Whether two prices are in one currency. -/
def sameCurrency (a b : Money) : Bool :=
  a.currency == b.currency

/-- Whether two prices differ by strictly more than `epsilon`. Prices in different currencies
always differ. -/
def differsFrom (a b : Money) (epsilon : Float) : Bool :=
  !a.sameCurrency b || epsilon < (a.amount - b.amount).abs

/-- The relative change from the first price to the second. There is none across currencies or from
zero. -/
def relativeChange? (a b : Money) : Option Float :=
  if !a.sameCurrency b || a.amount == 0.0 then none else some ((b.amount - a.amount) / a.amount)

/-- The price with two places and its currency. -/
def text (a : Money) : String :=
  Decimal.inMessageFixed 2 a.amount ++ " " ++ a.currency.code

end Money

end Repricing

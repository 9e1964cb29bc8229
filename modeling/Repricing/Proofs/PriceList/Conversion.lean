import Repricing.PriceList.Row

/-!
# Rows that become items

A row becomes an item if its price and its currency can be read.  Nothing else can keep it from
becoming one, and the currency that stands in for others counts only if the row names none.
-/

namespace Repricing

namespace RawRow

variable {raw : RawRow} {default : Currency}

/-! ## Prices and currencies -/

theorem fault_of_amount {fault : RowFault} (hamount : raw.amount = .error fault) :
    fault = .priceMissing ∨ ∃ text, fault = .badPrice text := by
  unfold amount at hamount
  split at hamount
  · exact .inl (Except.error.inj hamount).symm
  · next text _ =>
      split at hamount
      · cases hamount
      · exact .inr ⟨text, (Except.error.inj hamount).symm⟩

theorem kind_of_amount {fault : RowFault} (hamount : raw.amount = .error fault) :
    fault.kind = .invalidPrice := by
  rcases fault_of_amount hamount with rfl | ⟨text, rfl⟩
  · rfl
  · rfl

theorem priceCurrency_eq_error_iff {fault : RowFault} :
    raw.priceCurrency default = .error fault ↔
      ∃ text e, Text.present raw.currency = some text ∧ Currency.parse text = .error e ∧
        fault = .badCurrency e := by
  unfold priceCurrency
  cases Text.present raw.currency with
  | none => simp
  | some text =>
      dsimp only
      constructor
      · intro herror
        cases hparse : Currency.parse text with
        | error e =>
            rw [hparse] at herror
            exact ⟨text, e, rfl, hparse, (Except.error.inj herror).symm⟩
        | ok currency =>
            rw [hparse] at herror
            cases herror
      · rintro ⟨_, e, heq, hparse, rfl⟩
        obtain rfl := Option.some.inj heq
        rw [hparse]
        rfl

theorem kind_of_priceCurrency
    {fault : RowFault} (hcurrency : raw.priceCurrency default = .error fault) :
    fault.kind = .invalidCurrency := by
  obtain ⟨text, e, -, -, rfl⟩ := priceCurrency_eq_error_iff.mp hcurrency
  rfl

theorem priceCurrency_of_unnamed (hunnamed : Text.present raw.currency = none) :
    raw.priceCurrency default = .ok default := by
  rw [priceCurrency, hunnamed]

theorem priceCurrency_of_named
    {text : String} {currency : Currency} (hnamed : Text.present raw.currency = some text)
    (hread : Currency.read? text = some currency) :
    raw.priceCurrency default = .ok currency := by
  rw [priceCurrency, hnamed]
  dsimp only
  rw [Currency.parse, hread]
  rfl

/-! ## Items -/

/-- The item of a row at a price. -/
def itemAt (raw : RawRow) (price : Money) : Item :=
  { row := raw.row
    sku := Text.present raw.sku
    isbn := Text.present raw.isbn
    title := (Text.present raw.title).getD ""
    author := (Text.present raw.author).getD ""
    publisher := (Text.present raw.publisher).getD ""
    price
    stock := ((Text.present raw.stock).map readStock).getD 0 }

/-- A row is an item at the price that it gives, if it gives one. -/
theorem toItem_eq_ok_iff {item : Item} :
    raw.toItem default = .ok item ↔
      ∃ amount currency, raw.amount = .ok amount ∧ raw.priceCurrency default = .ok currency ∧
        item = raw.itemAt ⟨amount, currency⟩ := by
  unfold toItem
  cases raw.amount with
  | error fault => simp
  | ok amount =>
      cases raw.priceCurrency default with
      | error fault => simp
      | ok currency => simp [itemAt, eq_comm]

theorem toItem_eq_ok {item : Item} (hitem : raw.toItem default = .ok item) :
    item.row = raw.row ∧ raw.amount = .ok item.price.amount := by
  obtain ⟨amount, currency, hamount, -, rfl⟩ := toItem_eq_ok_iff.mp hitem
  exact ⟨rfl, hamount⟩

end RawRow

end Repricing

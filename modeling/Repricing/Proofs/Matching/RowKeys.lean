import Repricing.Matching.Search
import Repricing.Proofs.Matching.BareIsbn
import Repricing.Proofs.PriceList.Conversion
import Repricing.Proofs.Text.Folding

/-!
# Keys of rows

A row that is taken up has the keys of its raw fields, and an item has the keys of its trimmed
ones.  These are the same, so a row may as well be made an item first and be given keys afterwards.
Whether the keys are of any use is found out before the price and the currency are looked at.
-/

namespace Repricing

namespace MatchKeys

theorem ofItem_itemAt (raw : RawRow) (price : Money) : ofItem (raw.itemAt price) = ofRow raw := by
  simp only [ofItem, ofRow, ofFields, RawRow.itemAt, bind_bareIsbn?_present,
    Text.fold_getD_present]

/-- The item of a row has the keys of the row. -/
theorem ofItem_of_toItem
    {raw : RawRow} {default : Currency} {item : Item} (hitem : raw.toItem default = .ok item) :
    ofItem item = ofRow raw := by
  obtain ⟨amount, currency, -, -, rfl⟩ := RawRow.toItem_eq_ok_iff.mp hitem
  exact ofItem_itemAt raw _

end MatchKeys

/-- An item has the bare ISBN of its row. -/
theorem isbn_ofItem
    {raw : RawRow} {default : Currency} {item : Item} {text key : String}
    (htext : raw.isbn = some text) (hkey : bareIsbn? text = some key)
    (hitem : raw.toItem default = .ok item) :
    (MatchKeys.ofItem item).isbn = some key := by
  rw [MatchKeys.ofItem_of_toItem hitem, MatchKeys.ofRow, MatchKeys.ofFields, htext]
  exact hkey

/-- There is nothing in the fields of a row to find an entry by: the ISBN is missing or is none, and
nothing is left of the title when it is folded. -/
def RawRow.LacksKey (raw : RawRow) : Prop :=
  raw.isbn.bind bareIsbn? = none ∧ Text.fold (raw.title.getD "") = ""

theorem RawRow.lacksKey_iff {raw : RawRow} :
    raw.LacksKey ↔ (MatchKeys.ofRow raw).isUsable = false := by
  rw [MatchKeys.isUsable, Bool.or_eq_false_iff, Option.isSome_eq_false_iff,
    Option.isNone_iff_eq_none, decide_eq_false_iff_not, not_not]
  rfl

namespace KeyedItem

variable {raw : RawRow} {default : Currency} {keyed : KeyedItem}

/-- A row that can be taken up has keys that are of use, and its item has these keys. -/
theorem ofRow_eq_ok_iff :
    ofRow raw default = .ok keyed ↔
      (MatchKeys.ofRow raw).isUsable = true ∧ keyed.keys = MatchKeys.ofRow raw ∧
        raw.toItem default = .ok keyed.item := by
  unfold ofRow
  dsimp only
  cases (MatchKeys.ofRow raw).isUsable with
  | false => simp
  | true =>
      cases raw.toItem default with
      | error error => simp [Except.map]
      | ok item =>
          constructor
          · intro hrow
            cases hrow
            exact ⟨rfl, rfl, rfl⟩
          · rintro ⟨-, hkeys, hitem⟩
            rw [Except.ok.inj hitem, ← hkeys]
            rfl

theorem ofItem?_eq_some_iff {item : Item} :
    ofItem? item = some keyed ↔
      (MatchKeys.ofItem item).isUsable = true ∧ keyed = ⟨item, MatchKeys.ofItem item⟩ := by
  unfold ofItem?
  dsimp only
  cases (MatchKeys.ofItem item).isUsable with
  | false => simp
  | true => simp [eq_comm]

theorem row_ofRow (hrow : ofRow raw default = .ok keyed) : keyed.item.row = raw.row := by
  obtain ⟨-, -, hitem⟩ := ofRow_eq_ok_iff.mp hrow
  exact (RawRow.toItem_eq_ok hitem).1

/-- What comes of the conversion of a row.  The key is looked at before the price, and the price
before the currency. -/
inductive Conversion (raw : RawRow) (default : Currency) : Except RowError KeyedItem → Prop
  | noKey (hkey : (MatchKeys.ofRow raw).isUsable = false) :
      Conversion raw default (.error (RowFault.noKey.error raw.row))
  | badPrice {fault : RowFault} (hkey : (MatchKeys.ofRow raw).isUsable = true)
      (hprice : raw.amount = .error fault) :
      Conversion raw default (.error (fault.error raw.row))
  | badCurrency {amount : Float} {fault : RowFault}
      (hkey : (MatchKeys.ofRow raw).isUsable = true) (hprice : raw.amount = .ok amount)
      (hcurrency : raw.priceCurrency default = .error fault) :
      Conversion raw default (.error (fault.error raw.row))
  | item {amount : Float} {currency : Currency} {keyed : KeyedItem}
      (hkey : (MatchKeys.ofRow raw).isUsable = true) (hprice : raw.amount = .ok amount)
      (hcurrency : raw.priceCurrency default = .ok currency) :
      Conversion raw default (.ok keyed)

theorem conversion_ofRow (raw : RawRow) (default : Currency) :
    Conversion raw default (ofRow raw default) := by
  unfold ofRow
  dsimp only
  split
  · next hkey =>
      unfold RawRow.toItem
      split
      · next hprice => exact .badPrice hkey hprice
      · next hprice =>
          split
          · next hcurrency => exact .badCurrency hkey hprice hcurrency
          · next hcurrency => exact .item hkey hprice hcurrency
  · next hkey => exact .noKey (Bool.eq_false_iff.mpr hkey)

/-- A row matches what its item matches. -/
theorem matchKeyed_eq_matchItem
    (hrow : ofRow raw default = .ok keyed) (index : CandidateIndex) (settings : MatchSettings) :
    index.matchKeyed settings keyed = index.matchItem settings keyed.item := by
  obtain ⟨-, hkeys, hitem⟩ := ofRow_eq_ok_iff.mp hrow
  rw [CandidateIndex.matchKeyed, hkeys, ← MatchKeys.ofItem_of_toItem hitem]
  rfl

theorem ofRow_of_lacksKey (hlacks : raw.LacksKey) :
    ofRow raw default = .error (RowFault.noKey.error raw.row) := by
  unfold ofRow
  dsimp only
  rw [RawRow.lacksKey_iff.mp hlacks, if_neg Bool.false_ne_true]

theorem lacksKey_of_malformedRow
    {error : RowError} (hrow : ofRow raw default = .error error)
    (hkind : error.kind = .malformedRow) :
    raw.LacksKey := by
  have hconversion := conversion_ofRow raw default
  rw [hrow] at hconversion
  cases hconversion with
  | noKey hkey => exact RawRow.lacksKey_iff.mpr hkey
  | badPrice _ hprice => cases (RawRow.kind_of_amount hprice).symm.trans hkind
  | badCurrency _ _ hcurrency => cases (RawRow.kind_of_priceCurrency hcurrency).symm.trans hkind

/-- It makes no difference whether a row is taken up at once or made an item first and given keys
afterwards: the same rows get through, with the same items and keys, and they match the same
entries.  A row that lacks a key is malformed, whatever its price and currency, and no other row
is. -/
theorem ofRow_eq_ok_iff_ofItem? (raw : RawRow) (default : Currency) :
    (∀ keyed, ofRow raw default = .ok keyed ↔
      ∃ item, raw.toItem default = .ok item ∧ ofItem? item = some keyed) ∧
    (∀ item, raw.toItem default = .ok item → MatchKeys.ofItem item = MatchKeys.ofRow raw) ∧
    (∀ keyed, ofRow raw default = .ok keyed →
      ∀ (index : CandidateIndex) (settings : MatchSettings),
        index.matchKeyed settings keyed = index.matchItem settings keyed.item) ∧
    (raw.LacksKey → ofRow raw default = .error (RowFault.noKey.error raw.row)) ∧
    (∀ error, ofRow raw default = .error error → error.kind = .malformedRow → raw.LacksKey) := by
  refine ⟨?_, ?_, ?_, ?_, ?_⟩
  · intro keyed
    constructor
    · intro hrow
      obtain ⟨husable, hkeys, hitem⟩ := ofRow_eq_ok_iff.mp hrow
      refine ⟨keyed.item, hitem, ofItem?_eq_some_iff.mpr ?_⟩
      rw [MatchKeys.ofItem_of_toItem hitem]
      exact ⟨husable, by rw [← hkeys]⟩
    · rintro ⟨item, hitem, hkeyed⟩
      obtain ⟨husable, rfl⟩ := ofItem?_eq_some_iff.mp hkeyed
      have hkeys := MatchKeys.ofItem_of_toItem hitem
      exact ofRow_eq_ok_iff.mpr ⟨hkeys ▸ husable, hkeys, hitem⟩
  · intro item hitem
    exact MatchKeys.ofItem_of_toItem hitem
  · intro keyed hrow index settings
    exact matchKeyed_eq_matchItem hrow index settings
  · intro hlacks
    exact ofRow_of_lacksKey hlacks
  · intro error hrow hkind
    exact lacksKey_of_malformedRow hrow hkind

/-- A row with blanks around its fields, and a publisher that is blank. -/
def paddedRow : RawRow :=
  { RawRow.blank 1 with
    isbn := some " 978-5-699-12345-6\t"
    title := some "\u00A0 Война  и мир\u3000"
    author := some " Лев Толстой"
    publisher := some " \t"
    price := some "1 250,50" }

/-- A row that lacks a key, with a price and a currency that cannot be read. -/
def keylessRow : RawRow :=
  { RawRow.blank 2 with
    isbn := some "n/a"
    title := some " !!! "
    author := some "Лев Толстой"
    price := some "free"
    currency := some "12" }

/-- The row with the blanks is taken up with the keys of its trimmed item.  The other one is
malformed. -/
theorem ofRow_eq_ok_iff_ofItem?_samples :
    (∃ keyed, ofRow paddedRow .rub = .ok keyed ∧ ofItem? keyed.item = some keyed ∧
      keyed.item.title = "Война  и мир" ∧ keyed.item.publisher = "" ∧
      keyed.keys = ⟨some "9785699123456", "воина и мир", "лев толстои", ""⟩ ∧
      ∀ (index : CandidateIndex) (settings : MatchSettings),
        index.matchKeyed settings keyed = index.matchItem settings keyed.item) ∧
    keylessRow.LacksKey ∧
    ofRow keylessRow .rub = .error (RowFault.noKey.error 2) := by
  obtain ⟨hsame, -, hmatches, -, -⟩ := ofRow_eq_ok_iff_ofItem? paddedRow .rub
  obtain ⟨-, -, -, hmalformed, -⟩ := ofRow_eq_ok_iff_ofItem? keylessRow .rub
  let keyed : KeyedItem :=
    ⟨paddedRow.itemAt ⟨1250.5, .rub⟩, ⟨some "9785699123456", "воина и мир", "лев толстои", ""⟩⟩
  have hrow : ofRow paddedRow .rub = .ok keyed := by decide +kernel
  have hlacks : keylessRow.LacksKey := by
    constructor
    · decide +kernel
    · decide +kernel
  obtain ⟨item, hitem, hkeyed⟩ := (hsame keyed).mp hrow
  obtain rfl : item = keyed.item := by
    obtain ⟨-, heq⟩ := ofItem?_eq_some_iff.mp hkeyed
    rw [heq]
  exact ⟨⟨keyed, hrow, hkeyed, by decide +kernel, by decide +kernel, rfl, hmatches keyed hrow⟩,
    hlacks, hmalformed hlacks⟩

end KeyedItem

end Repricing

import Repricing.PriceList.Row
import Repricing.Proofs.Decimal.Numeral
import Repricing.Proofs.Float.Scientific

/-!
# Which texts are prices

Blanks in a price do not count, and a comma is a point. What is left has to be a numeral that
rounds to a finite double, and a minus sign is allowed before what rounds to zero only. So no item
has a price that is negative, infinite or no number.
-/

namespace Repricing

open Decimal (Numeral NumeralText SignText)

variable {raw : String} {x y : Float}

/-! ## The value of a numeral -/

/-- The digits and the exponent are read as the double to which the written number rounds. -/
theorem isRounded_magnitude (t : NumeralText) :
    IsRounded t.magnitude
      (Float.ofScientific t.numeral.digits (t.numeral.exponent < 0) t.numeral.exponent.natAbs) := by
  have hrounded := isRounded_ofScientific t.numeral.digits (decide (t.numeral.exponent < 0))
    t.numeral.exponent.natAbs
  have hexponent :
      (if decide (t.numeral.exponent < 0) then -(t.numeral.exponent.natAbs : Int)
        else t.numeral.exponent.natAbs) = t.numeral.exponent := by
    split
    · next hnegative =>
        have := of_decide_eq_true hnegative
        omega
    · next hnegative =>
        have := of_decide_eq_false (Bool.eq_false_iff.mpr hnegative)
        omega
  rwa [hexponent] at hrounded

theorem magnitude_nonneg (t : NumeralText) : 0 ≤ t.magnitude := by
  unfold NumeralText.magnitude
  positivity

/-- The opposite of a rounded number is not negative if the number was rounded to zero. -/
theorem IsRounded.neg_nonneg_iff_eq_zero {v : ℚ} (hy : IsRounded v y) (hv : 0 ≤ v) :
    (0.0 : Float) ≤ -y ↔ y = 0.0 := by
  constructor
  · intro hneg
    exact hy.unique (isRounded_zero hv ((hy.neg_nonneg_iff hv).mp hneg))
  · rintro rfl
    decide

theorem isInf_eq_false_of_isFinite (hx : x.isFinite = true) : x.isInf = false := by
  change x.toModel.unpack.isFinite = true at hx
  change x.toModel.unpack.isInf = false
  cases hunpack : x.toModel.unpack with
  | notANumber => rfl
  | infinity s =>
      rw [hunpack] at hx
      cases hx
  | zero s => rfl
  | finite s m e h => rfl

/-! ## Prices -/

/-- The numeral is a price: its value rounds to the finite double, and it has a minus sign only if
this is zero. -/
structure IsPrice (t : NumeralText) (y : Float) : Prop where
  rounded : IsRounded t.magnitude y
  isFinite : y.isFinite = true
  zero_of_minus : t.sign = .minus → y = 0.0

theorem toFloat_numeral (t : NumeralText) :
    ∃ y, IsRounded t.magnitude y ∧
      t.numeral.toFloat = if t.sign = .minus then -y else y := by
  refine ⟨_, isRounded_magnitude t, ?_⟩
  simp [Numeral.toFloat, NumeralText.numeral, Numeral.ofParts]

/-- The value of a numeral is taken for a price exactly if it is one. -/
theorem isPrice_iff {t : NumeralText} (hy : IsRounded t.magnitude y) :
    IsPrice t y ↔
      (if t.sign = .minus then -y else y).isFinite = true ∧
        (0.0 : Float) ≤ if t.sign = .minus then -y else y := by
  have hnonneg := magnitude_nonneg t
  split
  · next hminus =>
      rw [hy.neg_nonneg_iff_eq_zero hnonneg]
      constructor
      · intro h
        have hzero := h.zero_of_minus hminus
        rw [hzero]
        decide
      · rintro ⟨-, rfl⟩
        exact ⟨hy, by decide, fun _ => rfl⟩
  · next hplus =>
      constructor
      · intro h
        exact ⟨h.isFinite, hy.nonneg hnonneg⟩
      · rintro ⟨hfinite, -⟩
        exact ⟨hy, hfinite, fun hminus => absurd hminus hplus⟩

/-- A text is read as a price if what is left of it is one. -/
theorem readPrice?_eq_some_iff :
    readPrice? raw = some x ↔
      ∃ (t : NumeralText) (y : Float), t.chars = cleanPrice raw.toList ∧ IsPrice t y ∧
        x = if t.sign = .minus then -y else y := by
  rw [readPrice?, Option.filter_eq_some_iff, Option.map_eq_some_iff]
  simp only [Numeral.read?_eq_some_iff, Bool.and_eq_true, decide_eq_true_eq]
  constructor
  · rintro ⟨⟨_, ⟨t, hchars, rfl⟩, rfl⟩, hvalue⟩
    obtain ⟨y, hy, hfloat⟩ := toFloat_numeral t
    rw [hfloat] at hvalue
    exact ⟨t, y, hchars, (isPrice_iff hy).mpr hvalue, hfloat⟩
  · rintro ⟨t, y, hchars, hprice, rfl⟩
    obtain ⟨z, hz, hfloat⟩ := toFloat_numeral t
    obtain rfl := hprice.rounded.unique hz
    exact ⟨⟨t.numeral, ⟨t, hchars, rfl⟩, hfloat⟩, (isPrice_iff hz).mp hprice⟩

theorem readPrice?_isSome_iff :
    (readPrice? raw).isSome = true ↔
      ∃ (t : NumeralText) (y : Float), t.chars = cleanPrice raw.toList ∧ IsPrice t y := by
  rw [Option.isSome_iff_exists]
  constructor
  · rintro ⟨x, hx⟩
    obtain ⟨t, y, hchars, hprice, -⟩ := readPrice?_eq_some_iff.mp hx
    exact ⟨t, y, hchars, hprice⟩
  · rintro ⟨t, y, hchars, hprice⟩
    exact ⟨_, readPrice?_eq_some_iff.mpr ⟨t, y, hchars, hprice, rfl⟩⟩

theorem finite_nonneg_of_readPrice? (hx : readPrice? raw = some x) :
    x.isFinite = true ∧ (0.0 : Float) ≤ x := by
  rw [readPrice?, Option.filter_eq_some_iff, Bool.and_eq_true, decide_eq_true_eq] at hx
  exact hx.2

theorem RawRow.finite_nonneg_of_toItem
    {row : RawRow} {default : Currency} {item : Item} (hitem : row.toItem default = .ok item) :
    item.price.amount.isFinite = true ∧ (0.0 : Float) ≤ item.price.amount := by
  unfold toItem at hitem
  split at hitem
  · cases hitem
  · next amount hamount =>
      split at hitem
      · cases hitem
      · obtain rfl := Except.ok.inj hitem
        unfold RawRow.amount at hamount
        split at hamount
        · cases hamount
        · split at hamount
          · next hread =>
              obtain rfl := Except.ok.inj hamount
              exact finite_nonneg_of_readPrice? hread
          · cases hamount

/-! ## Spelling -/

/-- The second text has one more blank, or a point in place of a comma. -/
inductive Respelled : List Char → List Char → Prop
  | blank (before after : List Char) {c : Char} (hblank : Text.isBlank c = true) :
      Respelled (before ++ after) (before ++ c :: after)
  | point (before after : List Char) : Respelled (before ++ ',' :: after) (before ++ '.' :: after)

theorem cleanPrice_append (cs ds : List Char) :
    cleanPrice (cs ++ ds) = cleanPrice cs ++ cleanPrice ds := by
  rw [cleanPrice, List.filter_append, List.map_append]
  rfl

theorem cleanPrice_of_respelled {cs ds : List Char} (h : Respelled cs ds) :
    cleanPrice cs = cleanPrice ds := by
  cases h with
  | @blank before after c hblank =>
      have hdrop : cleanPrice (c :: after) = cleanPrice after := by
        rw [cleanPrice, List.filter_cons_of_neg (by rw [hblank]; decide)]
        rfl
      rw [cleanPrice_append, cleanPrice_append, hdrop]
  | point before after =>
      have hcomma : Text.isBlank ',' = false := by decide
      have hpoint : Text.isBlank '.' = false := by decide
      have hsame : cleanPrice (',' :: after) = cleanPrice ('.' :: after) := by
        simp [cleanPrice, hcomma, hpoint]
      rw [cleanPrice_append, cleanPrice_append, hsame]

/-- Any number of such changes, made or undone, leaves the price as it is. -/
theorem readPrice?_of_respelled
    {other : String} (h : Relation.EqvGen Respelled raw.toList other.toList) :
    readPrice? raw = readPrice? other := by
  have hclean : ∀ {cs ds}, Relation.EqvGen Respelled cs ds → cleanPrice cs = cleanPrice ds := by
    intro cs ds h
    induction h with
    | rel _ _ h => exact cleanPrice_of_respelled h
    | refl _ => rfl
    | symm _ _ _ ih => exact ih.symm
    | trans _ _ _ _ _ ih ih' => exact ih.trans ih'
  rw [readPrice?, readPrice?, hclean h]

/-- A text is a price exactly if it is a numeral of a finite value that is not negative, apart from
blanks and commas. Prices are finite and not negative, also those of items, and the spelling of the
text makes no difference to them. -/
theorem readPrice?_laws (raw : String) :
    ((readPrice? raw).isSome = true ↔
      ∃ (t : NumeralText) (y : Float), t.chars = cleanPrice raw.toList ∧ IsPrice t y) ∧
    (∀ x, readPrice? raw = some x → x.isNaN = false ∧ x.isInf = false ∧ ¬ x < 0.0) ∧
    (∀ (row : RawRow) (default : Currency) (item : Item), row.toItem default = .ok item →
      item.price.amount.isFinite = true ∧ (0.0 : Float) ≤ item.price.amount) ∧
    ∀ other : String, Relation.EqvGen Respelled raw.toList other.toList →
      readPrice? raw = readPrice? other := by
  refine ⟨readPrice?_isSome_iff, ?_, fun row default item => RawRow.finite_nonneg_of_toItem,
    fun other => readPrice?_of_respelled⟩
  intro x hx
  obtain ⟨hfinite, hnonneg⟩ := finite_nonneg_of_readPrice? hx
  exact ⟨(isNaN_eq_false_of_le hnonneg).2, isInf_eq_false_of_isFinite hfinite,
    not_lt_of_le hnonneg⟩

/-- A row whose price has its digits grouped and a comma. -/
def groupedRow : RawRow :=
  { RawRow.blank 1 with price := some "1 250,50" }

theorem readPrice?_laws_sample :
    readPrice? "1 250,50" = some 1250.5 ∧
      (1250.5 : Float).isNaN = false ∧ (1250.5 : Float).isInf = false ∧ ¬ (1250.5 : Float) < 0.0 ∧
      (∃ item, groupedRow.toItem Currency.rub = .ok item ∧
        item.price.amount.isFinite = true ∧ (0.0 : Float) ≤ item.price.amount) ∧
      Relation.EqvGen Respelled "1 250,50".toList "1250.50".toList ∧
      readPrice? "1 250,50" = readPrice? "1250.50" := by
  obtain ⟨-, hvalue, hamount, hspelling⟩ := readPrice?_laws "1 250,50"
  have hread : readPrice? "1 250,50" = some 1250.5 := by decide +kernel
  have hitem : groupedRow.toItem Currency.rub =
      .ok { row := 1, sku := none, isbn := none, title := "", author := "", publisher := "",
            price := { amount := 1250.5, currency := Currency.rub }, stock := 0 } := by
    decide +kernel
  have hsame : Relation.EqvGen Respelled "1 250,50".toList "1250.50".toList :=
    .trans _ _ _
      (.symm _ _ (.rel _ _ (.blank ['1'] ['2', '5', '0', ',', '5', '0'] (c := ' ') (by decide))))
      (.rel _ _ (.point ['1', '2', '5', '0'] ['5', '0']))
  obtain ⟨hnan, hinf, hlt⟩ := hvalue 1250.5 hread
  exact ⟨hread, hnan, hinf, hlt, ⟨_, hitem, hamount _ _ _ hitem⟩, hsame, hspelling _ hsame⟩

end Repricing

import Mathlib
import Repricing.Error
import Repricing.Proofs.Text.Blank

/-!
# Currency codes

A currency is read from a text with the letters of its code, in any case and with blanks around
them.  The code itself is one of these texts.
-/

namespace Repricing

theorem Text.isBlank_eq_false_of_isUpper {c : Char} (hcapital : c.isUpper = true) :
    isBlank c = false := by
  obtain ⟨hlower, hupper⟩ : 65 ≤ c.toNat ∧ c.toNat ≤ 90 := by
    simpa [Char.isUpper, UInt32.le_iff_toNat_le] using hcapital
  exact isBlank_eq_false_of_visible (by omega) (by omega)

namespace Currency

variable {text : String} {currency : Currency}

/-- A text reads as the currency whose code it gives when it is trimmed and its letters are made
capital. -/
theorem read?_eq_some_iff :
    read? text = some currency ↔
      String.ofList ((Text.trimmed text.toList).map Char.toUpper) = currency.code := by
  unfold read?
  constructor
  · intro hread
    dsimp only at hread
    split at hread
    · rw [← Option.some.inj hread]
    · cases hread
  · intro hcode
    have hvalid := currency.isCode
    rw [← hcode] at hvalid
    rw [dif_pos hvalid]
    obtain ⟨code, hcurrency⟩ := currency
    simp only [Option.some.injEq, mk.injEq]
    exact hcode

/-- A code reads as its own currency. -/
theorem read?_code (currency : Currency) : read? currency.code = some currency := by
  have hcapital : ∀ c ∈ currency.code.toList, c.isUpper = true := by
    have hcode := currency.isCode
    rw [isCurrencyCode, Bool.and_eq_true] at hcode
    exact List.all_eq_true.mp hcode.2
  have hsame : currency.code.toList.map Char.toUpper = currency.code.toList := by
    rw [List.map_congr_left fun c hc =>
      Char.toUpper_eq_of_not_isLower (Char.not_isLower_of_isUpper (hcapital c hc)), List.map_id']
  rw [read?_eq_some_iff, Text.trimmed_eq_self, hsame, String.ofList_toList]
  intro c hc
  exact Text.isBlank_eq_false_of_isUpper (hcapital c hc)

theorem read?_of_parse_error {e : EngineError} (hparse : parse text = .error e) :
    read? text = none := by
  unfold parse at hparse
  split at hparse
  · cases hparse
  · next hread => exact hread

end Currency

end Repricing

import Mathlib.Tactic.FieldSimp
import Mathlib.Tactic.Positivity
import Repricing.Decimal.Layout
import Repricing.Proofs.Decimal.Numeral

/-!
# Written decimals are numerals

A decimal in plain or in scientific notation is a numeral that denotes the decimal. If whole
numbers end in a point and a zero, then every numeral has a point or an exponent.
-/

namespace Repricing.Decimal

variable {ds es : List Char}

/-! ## Rows of digits -/

theorem digitsValue_append (ds es : List Char) :
    digitsValue (ds ++ es) = digitsValue ds * 10 ^ es.length + digitsValue es := by
  change Nat.ofDigitChars 10 (ds ++ es) 0 = _
  rw [Nat.ofDigitChars_append, Nat.ofDigitChars_eq_ofDigitChars_zero, mul_comm]
  rfl

theorem digitsValue_digitChars (n : Nat) : digitsValue (digitChars n) = n :=
  Nat.ofDigitChars_ten_toDigits

theorem digitsValue_zeros (n : Nat) : digitsValue (zeros n) = 0 :=
  Nat.ofDigitChars_replicate_zero

theorem digitChars_injective : Function.Injective digitChars := by
  intro m n heq
  rw [← digitsValue_digitChars m, heq, digitsValue_digitChars]

theorem allDigits_digitChars (n : Nat) : AllDigits (digitChars n) :=
  fun _ hd => Nat.isDigit_of_mem_toDigits (by decide) (by decide) hd

theorem allDigits_zeros (n : Nat) : AllDigits (zeros n) := by
  intro d hd
  rw [List.eq_of_mem_replicate hd]
  rfl

theorem digitChars_ne_nil (n : Nat) : digitChars n ≠ [] :=
  Nat.toDigits_ne_nil

theorem AllDigits.append (hds : AllDigits ds) (hes : AllDigits es) : AllDigits (ds ++ es) :=
  List.forall_mem_append.mpr ⟨hds, hes⟩

theorem AllDigits.take (hds : AllDigits ds) (n : Nat) : AllDigits (ds.take n) :=
  fun d hd => hds d (List.mem_of_mem_take hd)

theorem AllDigits.drop (hds : AllDigits ds) (n : Nat) : AllDigits (ds.drop n) :=
  fun d hd => hds d (List.mem_of_mem_drop hd)

/-! ## Notations -/

/-- The number that a decimal stands for. -/
def Scaled.value (d : Scaled) : ℚ :=
  d.digits * 10 ^ d.exponent

/-- The text denotes the decimal, by a numeral with a point or an exponent and without a sign. -/
def Denotes (cs : List Char) (d : Scaled) : Prop :=
  ∃ t : NumeralText, t.chars = cs ∧ t.magnitude = d.value ∧ t.sign = .absent ∧
    (t.fraction ≠ none ∨ t.exponent ≠ none)

theorem denotes_withPlaces (digits : Nat) {places : Nat} (hpos : places ≠ 0) :
    Denotes (withPlaces digits places) ⟨digits, -places⟩ := by
  obtain ⟨padded, hpadded⟩ :
      ∃ padded, padded = zeros (places + 1 - (digitChars digits).length) ++ digitChars digits :=
    ⟨_, rfl⟩
  have hlength : places + 1 ≤ padded.length := by
    rw [hpadded, List.length_append, zeros, List.length_replicate]
    omega
  have hall : AllDigits padded := hpadded ▸ (allDigits_zeros _).append (allDigits_digitChars _)
  have hvalue : digitsValue padded = digits := by
    rw [hpadded, digitsValue_append, digitsValue_zeros, digitsValue_digitChars, zero_mul, zero_add]
  let t : NumeralText :=
    { sign := .absent
      whole := padded.take (padded.length - places)
      fraction := some (padded.drop (padded.length - places))
      exponent := none
      allDigits_whole := hall.take _
      allDigits_fraction := hall.drop _
      ne_nil := by
        left
        apply List.ne_nil_of_length_pos
        rw [List.length_take]
        omega }
  refine ⟨t, ?_, ?_, rfl, .inl (Option.some_ne_none _)⟩
  · rw [withPlaces, if_neg hpos]
    dsimp only
    rw [← hpadded]
    change _ ++ ('.' :: _ ++ []) = _
    rw [List.append_nil]
  · have hnumeral : t.numeral = ⟨false, digits, -places⟩ := by
      change Numeral.ofParts false _ _ 0 = _
      rw [Numeral.ofParts, Option.getD_some, List.take_append_drop, hvalue, List.length_drop]
      congr 1
      omega
    rw [NumeralText.magnitude, hnumeral, Scaled.value]

theorem denotes_plain (d : Scaled) : Denotes (d.plain true) d := by
  unfold Scaled.plain
  split
  · next hexponent =>
      let t : NumeralText :=
        { sign := .absent
          whole := digitChars d.digits ++ zeros d.exponent.toNat
          fraction := some ['0']
          exponent := none
          allDigits_whole := (allDigits_digitChars _).append (allDigits_zeros _)
          allDigits_fraction := allDigits_zeros 1
          ne_nil := .inr (List.cons_ne_nil _ _) }
      refine ⟨t, rfl, ?_, rfl, .inl (Option.some_ne_none _)⟩
      have hnumeral : t.numeral = ⟨false, d.digits * 10 ^ (d.exponent.toNat + 1), -1⟩ := by
        change Numeral.ofParts false _ _ 0 = _
        rw [Numeral.ofParts, Option.getD_some, digitsValue_append, digitsValue_append,
          digitsValue_zeros, digitsValue_digitChars, zeros, List.length_replicate, pow_succ,
          ← mul_assoc]
        rfl
      obtain ⟨n, hn⟩ := Int.eq_ofNat_of_zero_le hexponent
      rw [NumeralText.magnitude, hnumeral, Scaled.value, hn, Int.toNat_natCast, zpow_natCast]
      push_cast
      rw [pow_succ, zpow_neg_one]
      field_simp
  · next hexponent =>
      have hplaces := denotes_withPlaces d.digits (show (-d.exponent).toNat ≠ 0 by omega)
      rwa [show (-((-d.exponent).toNat : Int)) = d.exponent by omega] at hplaces

/-- The exponent of scientific notation always has a sign. -/
theorem exists_exponentText (power : Int) :
    ∃ x : ExponentText,
      x.chars = 'e' :: (if power < 0 then '-' else '+') :: digitChars power.natAbs ∧
        x.value = power := by
  have hvalue := digitsValue_digitChars power.natAbs
  by_cases hnegative : power < 0
  · refine ⟨⟨'e', .minus, digitChars power.natAbs, .inl rfl, allDigits_digitChars _,
      digitChars_ne_nil _⟩, ?_, ?_⟩
    · rw [if_pos hnegative]
      rfl
    · rw [ExponentText.value, if_pos rfl, hvalue]
      omega
  · refine ⟨⟨'e', .plus, digitChars power.natAbs, .inl rfl, allDigits_digitChars _,
      digitChars_ne_nil _⟩, ?_, ?_⟩
    · rw [if_neg hnegative]
      rfl
    · rw [ExponentText.value, if_neg SignText.noConfusion, hvalue]
      omega

theorem denotes_scientific (d : Scaled) : Denotes d.scientific d := by
  obtain ⟨ds, hds⟩ : ∃ ds, ds = digitChars d.digits := ⟨_, rfl⟩
  have hall : AllDigits ds := hds ▸ allDigits_digitChars _
  have hpos : 0 < ds.length := List.length_pos_iff.mpr (hds ▸ digitChars_ne_nil _)
  obtain ⟨x, hchars, hpower⟩ := exists_exponentText (d.exponent + (ds.length - 1 : Nat))
  -- The digits after the first one, if there are any.
  obtain ⟨fraction, hfraction, hpoint⟩ :
      ∃ fraction : Option (List Char), fraction.getD [] = ds.drop 1 ∧
        fraction.elim [] ('.' :: ·) = if ds.length ≤ 1 then [] else '.' :: ds.drop 1 := by
    split
    · next hle => exact ⟨none, (List.drop_eq_nil_of_le hle).symm, rfl⟩
    · exact ⟨some (ds.drop 1), rfl, rfl⟩
  let t : NumeralText :=
    { sign := .absent
      whole := ds.take 1
      fraction := fraction
      exponent := some x
      allDigits_whole := hall.take 1
      allDigits_fraction := hfraction ▸ hall.drop 1
      ne_nil := by
        left
        apply List.ne_nil_of_length_pos
        rw [List.length_take]
        omega }
  refine ⟨t, ?_, ?_, rfl, .inr (Option.some_ne_none _)⟩
  · change ds.take 1 ++ (fraction.elim [] ('.' :: ·) ++ x.chars) = _
    rw [hpoint, hchars, Scaled.scientific, ← hds, List.append_assoc]
  · have hnumeral : t.numeral = ⟨false, d.digits, d.exponent⟩ := by
      change Numeral.ofParts false (ds.take 1) (fraction.getD []) x.value = _
      rw [hfraction, hpower, Numeral.ofParts, List.take_append_drop, List.length_drop, hds,
        digitsValue_digitChars]
      congr 1
      omega
    rw [NumeralText.magnitude, hnumeral, Scaled.value]

theorem denotes_layout (style : Style) (hpoint : style.point = true) (d : Scaled) :
    Denotes (style.layout d) d := by
  unfold Style.layout
  split
  · rw [hpoint]
    exact denotes_plain d
  · exact denotes_scientific d

/-! ## Texts of decimals -/

section Texts

variable {cs : List Char} {d d' : Scaled}

theorem Denotes.notHead_sign (h : Denotes cs d) : NotHead (fun c => c = '-' ∨ c = '+') cs := by
  obtain ⟨t, rfl, -, habsent, -⟩ := h
  rw [NumeralText.chars, habsent]
  exact t.notHead_after_sign

theorem Denotes.not_allDigits (h : Denotes cs d) : ¬ AllDigits cs := by
  obtain ⟨t, rfl, -, -, hpoint⟩ := h
  exact t.not_allDigits hpoint

theorem Denotes.mem {c : Char} (h : Denotes cs d) (hc : c ∈ cs) :
    c.isDigit = true ∨ c ∈ ['-', '+', '.', 'e', 'E'] := by
  obtain ⟨t, rfl, -⟩ := h
  exact t.mem_chars hc

/-- One text denotes decimals of one value only. -/
theorem Denotes.value_eq (h : Denotes cs d) (h' : Denotes cs d') : d.value = d'.value := by
  obtain ⟨t, ht, hvalue, -⟩ := h
  obtain ⟨t', ht', hvalue', -⟩ := h'
  have hread := t.read?_chars
  rw [ht, ← ht', t'.read?_chars] at hread
  rw [← hvalue, ← hvalue', NumeralText.magnitude, NumeralText.magnitude, Option.some.inj hread]

end Texts

end Repricing.Decimal

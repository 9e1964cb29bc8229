import Mathlib.Algebra.Order.Field.Rat
import Mathlib.Data.List.TakeDrop
import Mathlib.Data.List.TakeWhile
import Repricing.Decimal.Numeral

/-!
# The texts that are numerals

A numeral is written as an optional sign, digits, an optional point with more digits, and an
optional exponent. Reading accepts these texts and no others, and what it reads is the number that
is written.
-/

namespace Repricing.Decimal

/-! ## Written numerals -/

/-- A sign as it is written, or not written. -/
inductive SignText where
  | absent
  | plus
  | minus
deriving DecidableEq

def SignText.chars : SignText → List Char
  | .absent => []
  | .plus => ['+']
  | .minus => ['-']

/-- Decimal digits only. -/
def AllDigits (ds : List Char) : Prop :=
  ∀ d ∈ ds, d.isDigit = true

/-- The exponent of a numeral as it is written. -/
structure ExponentText where
  letter : Char
  sign : SignText
  digits : List Char
  isLetter : letter = 'e' ∨ letter = 'E'
  allDigits : AllDigits digits
  ne_nil : digits ≠ []

def ExponentText.chars (x : ExponentText) : List Char :=
  x.letter :: (x.sign.chars ++ x.digits)

def ExponentText.value (x : ExponentText) : Int :=
  if x.sign = .minus then -digitsValue x.digits else digitsValue x.digits

/-- A numeral as it is written.  Digits may be missing on one side of the point. -/
structure NumeralText where
  sign : SignText
  whole : List Char
  fraction : Option (List Char)
  exponent : Option ExponentText
  allDigits_whole : AllDigits whole
  allDigits_fraction : AllDigits (fraction.getD [])
  ne_nil : whole ≠ [] ∨ fraction.getD [] ≠ []

namespace NumeralText

/-- The point and the digits after it. -/
def fractionChars (t : NumeralText) : List Char :=
  t.fraction.elim [] ('.' :: ·)

def exponentChars (t : NumeralText) : List Char :=
  t.exponent.elim [] ExponentText.chars

def chars (t : NumeralText) : List Char :=
  t.sign.chars ++ (t.whole ++ (t.fractionChars ++ t.exponentChars))

def power (t : NumeralText) : Int :=
  t.exponent.elim 0 ExponentText.value

/-- What is read from the text. -/
def numeral (t : NumeralText) : Numeral :=
  .ofParts (t.sign = .minus) t.whole (t.fraction.getD []) t.power

/-- The number that is written, without its sign. -/
def magnitude (t : NumeralText) : ℚ :=
  t.numeral.digits * 10 ^ t.numeral.exponent

end NumeralText

/-! ## Signs and digits -/

/-- The text does not begin with such a character. -/
def NotHead (p : Char → Prop) (cs : List Char) : Prop :=
  ∀ c ∈ cs.head?, ¬ p c

variable {ds cs rest : List Char}

theorem notHead_nil {p : Char → Prop} : NotHead p [] := nofun

theorem notHead_cons {p : Char → Prop} {c : Char} (hc : ¬ p c) : NotHead p (c :: cs) := by
  rintro _ ⟨⟩
  exact hc

/-- Where a run of characters ends, it is cut off. -/
theorem takeWhile_append_of_notHead
    {p : Char → Bool} (hds : ∀ d ∈ ds, p d = true) (hrest : NotHead (p · = true) rest) :
    (ds ++ rest).takeWhile p = ds ∧ (ds ++ rest).dropWhile p = rest := by
  rw [List.takeWhile_append_of_pos hds, List.dropWhile_append_of_pos hds]
  cases rest with
  | nil => exact ⟨List.append_nil ds, rfl⟩
  | cons c rest =>
      have hc := hrest c rfl
      rw [List.takeWhile_cons_of_neg hc, List.dropWhile_cons_of_neg hc, List.append_nil]
      exact ⟨rfl, rfl⟩

theorem spanDigits_append (hds : AllDigits ds) (hrest : NotHead (·.isDigit = true) rest) :
    spanDigits (ds ++ rest) = (ds, rest) := by
  obtain ⟨htake, hdrop⟩ := takeWhile_append_of_notHead hds hrest
  rw [spanDigits, List.span_eq_takeWhile_dropWhile, htake, hdrop]

theorem spanDigits_spec (cs : List Char) :
    (spanDigits cs).1 ++ (spanDigits cs).2 = cs ∧ AllDigits (spanDigits cs).1 := by
  rw [spanDigits, List.span_eq_takeWhile_dropWhile]
  exact ⟨List.takeWhile_append_dropWhile, fun d hd => List.mem_takeWhile_imp hd⟩

theorem spanSign_append (sign : SignText) (hrest : NotHead (fun c => c = '-' ∨ c = '+') rest) :
    spanSign (sign.chars ++ rest) = (decide (sign = .minus), rest) := by
  cases sign with
  | plus => rfl
  | minus => rfl
  | absent =>
      rw [SignText.chars, List.nil_append]
      unfold spanSign
      split
      · exact absurd (.inl rfl) (hrest _ rfl)
      · exact absurd (.inr rfl) (hrest _ rfl)
      · rfl

theorem spanSign_spec (cs : List Char) :
    ∃ sign : SignText, (spanSign cs).1 = decide (sign = .minus) ∧
      sign.chars ++ (spanSign cs).2 = cs := by
  unfold spanSign
  split
  · exact ⟨.minus, rfl, rfl⟩
  · exact ⟨.plus, rfl, rfl⟩
  · exact ⟨.absent, rfl, rfl⟩

theorem AllDigits.notHead_sign (hds : AllDigits ds) (hne : ds ≠ []) (rest : List Char) :
    NotHead (fun c => c = '-' ∨ c = '+') (ds ++ rest) := by
  obtain ⟨d, ds, rfl⟩ := List.exists_cons_of_ne_nil hne
  have hd := hds d List.mem_cons_self
  apply notHead_cons
  rintro (rfl | rfl) <;> cases hd

/-! ## Fractions and exponents -/

theorem spanFraction_spec (cs : List Char) :
    ∃ fraction : Option (List Char), (spanFraction cs).1 = fraction.getD [] ∧
      AllDigits (fraction.getD []) ∧
      fraction.elim [] ('.' :: ·) ++ (spanFraction cs).2 = cs := by
  unfold spanFraction
  split
  · next rest =>
      obtain ⟨happend, hdigits⟩ := spanDigits_spec rest
      exact ⟨some (spanDigits rest).1, rfl, hdigits, congrArg ('.' :: ·) happend⟩
  · exact ⟨none, rfl, nofun, rfl⟩

theorem exponentOf?_chars (x : ExponentText) : exponentOf? x.chars = some x.value := by
  have hsign := spanSign_append x.sign (x.allDigits.notHead_sign x.ne_nil [])
  have hdigits := spanDigits_append x.allDigits notHead_nil
  rw [List.append_nil] at hsign hdigits
  rw [ExponentText.chars, exponentOf?, if_pos x.isLetter]
  simp only [hsign, hdigits]
  simp [x.ne_nil, ExponentText.value]

theorem exists_of_exponentOf? {power : Int} (h : exponentOf? cs = some power) :
    ∃ exponent : Option ExponentText, exponent.elim [] ExponentText.chars = cs ∧
      exponent.elim 0 ExponentText.value = power := by
  cases cs with
  | nil => exact ⟨none, rfl, Option.some.inj h⟩
  | cons letter rest =>
      rw [exponentOf?] at h
      split at h
      · next hletter =>
          obtain ⟨sign, hminus, happend⟩ := spanSign_spec rest
          obtain ⟨hdigits, hall⟩ := spanDigits_spec (spanSign rest).2
          dsimp only at h
          split at h
          · cases h
          · next hcomplete =>
              rw [Bool.or_eq_true, not_or, Bool.not_eq_true', Bool.not_eq_false,
                List.isEmpty_iff, List.isEmpty_iff] at hcomplete
              rw [hcomplete.2, List.append_nil] at hdigits
              rw [hdigits] at hall hcomplete
              refine ⟨some ⟨letter, sign, (spanSign rest).2, hletter, hall, hcomplete.1⟩, ?_, ?_⟩
              · exact congrArg (letter :: ·) happend
              · rw [hminus, hdigits] at h
                simpa [ExponentText.value] using h
      · cases h

/-! ## Numerals -/

namespace NumeralText

theorem notHead_exponentChars
    {p : Char → Prop} (t : NumeralText) (hlower : ¬ p 'e') (hupper : ¬ p 'E') :
    NotHead p t.exponentChars := by
  unfold exponentChars
  cases t.exponent with
  | none => exact notHead_nil
  | some x =>
      apply notHead_cons
      rcases x.isLetter with h | h <;> rwa [h]

theorem spanFraction_append (t : NumeralText) :
    spanFraction (t.fractionChars ++ t.exponentChars) = (t.fraction.getD [], t.exponentChars) := by
  have hall := t.allDigits_fraction
  have hdigit := t.notHead_exponentChars (p := (·.isDigit = true)) (by decide) (by decide)
  have hpoint := t.notHead_exponentChars (p := (· = '.')) (by decide) (by decide)
  unfold fractionChars
  cases hfraction : t.fraction with
  | none =>
      rw [Option.elim_none, List.nil_append, Option.getD_none]
      unfold spanFraction
      split
      · next heq =>
          rw [heq] at hpoint
          exact absurd rfl (hpoint _ rfl)
      · rfl
  | some ds =>
      rw [hfraction] at hall
      exact spanDigits_append hall hdigit

theorem notHead_after_whole (t : NumeralText) :
    NotHead (·.isDigit = true) (t.fractionChars ++ t.exponentChars) := by
  unfold fractionChars
  cases t.fraction with
  | none => exact t.notHead_exponentChars (by decide) (by decide)
  | some ds => exact notHead_cons (by decide)

theorem notHead_after_sign (t : NumeralText) :
    NotHead (fun c => c = '-' ∨ c = '+') (t.whole ++ (t.fractionChars ++ t.exponentChars)) := by
  by_cases hwhole : t.whole = []
  · obtain ⟨ds, hfraction⟩ : ∃ ds, t.fraction = some ds := by
      have hne := t.ne_nil.resolve_left (not_not.mpr hwhole)
      cases hfraction : t.fraction with
      | none =>
          rw [hfraction] at hne
          exact absurd rfl hne
      | some ds => exact ⟨ds, rfl⟩
    rw [hwhole, fractionChars, hfraction]
    exact notHead_cons (by decide)
  · exact t.allDigits_whole.notHead_sign hwhole _

/-- The characters that numerals are made of. -/
theorem mem_chars {c : Char} (t : NumeralText) (hc : c ∈ t.chars) :
    c.isDigit = true ∨ c ∈ ['-', '+', '.', 'e', 'E'] := by
  have hsign (sign : SignText) (hc : c ∈ sign.chars) : c ∈ ['-', '+', '.', 'e', 'E'] := by
    cases sign with
    | absent => cases hc
    | plus =>
        obtain rfl := List.mem_singleton.mp hc
        decide
    | minus =>
        obtain rfl := List.mem_singleton.mp hc
        decide
  rw [chars, List.mem_append, List.mem_append, List.mem_append] at hc
  rcases hc with hc | hc | hc | hc
  · exact .inr (hsign _ hc)
  · exact .inl (t.allDigits_whole c hc)
  · have hall := t.allDigits_fraction
    unfold fractionChars at hc
    cases hfraction : t.fraction with
    | none =>
        rw [hfraction] at hc
        cases hc
    | some ds =>
        rw [hfraction] at hc hall
        rcases List.mem_cons.mp hc with rfl | hc
        · exact .inr (by decide)
        · exact .inl (hall c hc)
  · unfold exponentChars at hc
    cases hexponent : t.exponent with
    | none =>
        rw [hexponent] at hc
        cases hc
    | some x =>
        rw [hexponent] at hc
        rcases List.mem_cons.mp hc with rfl | hc
        · rcases x.isLetter with h | h <;> rw [h] <;> exact .inr (by decide)
        · rcases List.mem_append.mp hc with hc | hc
          · exact .inr (hsign _ hc)
          · exact .inl (x.allDigits c hc)

/-- A point or an exponent is no digit. -/
theorem not_allDigits (t : NumeralText) (hpoint : t.fraction ≠ none ∨ t.exponent ≠ none) :
    ¬ AllDigits t.chars := by
  intro hall
  rcases hpoint with hfraction | hexponent
  · obtain ⟨ds, hds⟩ := Option.ne_none_iff_exists'.mp hfraction
    have hmem : '.' ∈ t.fractionChars := by
      rw [fractionChars, hds]
      exact List.mem_cons_self
    cases hall '.' (List.mem_append_right _ (List.mem_append_right _ (List.mem_append_left _ hmem)))
  · obtain ⟨x, hx⟩ := Option.ne_none_iff_exists'.mp hexponent
    have hmem : x.letter ∈ t.exponentChars := by
      rw [exponentChars, hx]
      exact List.mem_cons_self
    have hdigit := hall x.letter
      (List.mem_append_right _ (List.mem_append_right _ (List.mem_append_right _ hmem)))
    rcases x.isLetter with h | h <;> rw [h] at hdigit <;> cases hdigit

/-- Every written numeral is read as the number that is written. -/
theorem read?_chars (t : NumeralText) : Numeral.read? t.chars = some t.numeral := by
  have hdigits : (t.whole.isEmpty && (t.fraction.getD []).isEmpty) = false := by
    rw [Bool.and_eq_false_iff, List.isEmpty_eq_false_iff, List.isEmpty_eq_false_iff]
    exact t.ne_nil
  have hexponent : exponentOf? t.exponentChars = some t.power := by
    unfold exponentChars power
    cases t.exponent with
    | none => rfl
    | some x => exact exponentOf?_chars x
  rw [chars, Numeral.read?, spanSign_append t.sign t.notHead_after_sign]
  simp only [spanDigits_append t.allDigits_whole t.notHead_after_whole, spanFraction_append,
    hdigits, hexponent]
  rfl

/-- Nothing else is read as a number. -/
theorem exists_of_read? {n : Numeral} (h : Numeral.read? cs = some n) :
    ∃ t : NumeralText, t.chars = cs ∧ t.numeral = n := by
  obtain ⟨sign, hminus, hsign⟩ := spanSign_spec cs
  obtain ⟨hwhole, hallWhole⟩ := spanDigits_spec (spanSign cs).2
  obtain ⟨fraction, hvalue, hallFraction, hfraction⟩ :=
    spanFraction_spec (spanDigits (spanSign cs).2).2
  rw [Numeral.read?] at h
  dsimp only at h
  split at h
  · cases h
  · next hdigits =>
      rw [hvalue, Bool.and_eq_true, List.isEmpty_iff, List.isEmpty_iff, not_and_or] at hdigits
      obtain ⟨power, hpower, rfl⟩ := Option.map_eq_some_iff.mp h
      obtain ⟨exponent, hexponent, rfl⟩ := exists_of_exponentOf? hpower
      refine ⟨⟨sign, _, fraction, exponent, hallWhole, hallFraction, hdigits⟩, ?_, ?_⟩
      · change sign.chars ++ (_ ++ (fraction.elim [] ('.' :: ·) ++
          exponent.elim [] ExponentText.chars)) = cs
        rw [hexponent, hfraction, hwhole, hsign]
      · rw [hminus, hvalue]
        rfl

end NumeralText

theorem Numeral.read?_eq_some_iff {n : Numeral} :
    Numeral.read? cs = some n ↔ ∃ t : NumeralText, t.chars = cs ∧ t.numeral = n := by
  constructor
  · exact NumeralText.exists_of_read?
  · rintro ⟨t, rfl, rfl⟩
    exact t.read?_chars

end Repricing.Decimal

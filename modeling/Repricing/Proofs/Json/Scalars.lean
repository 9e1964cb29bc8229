import Repricing.Json.Printer
import Repricing.Json.Reader
import Repricing.Proofs.Codec.BatchId
import Repricing.Proofs.Decimal.Binary
import Repricing.Proofs.Decimal.Shortest

/-!
# Texts of numbers and strings

No two numbers have the same text: whole numbers are told from doubles by the point or the
exponent, and the shortest digits of a double are those of no other one. A number ends where a
character follows that is part of no number. A string is read back, whatever characters it has, so
it ends at a quote that is not escaped.
-/

namespace Repricing.Json

open Decimal (Denotes NotHead Scaled digitChars signChars)

variable {m n : Int} {x y : Float} {cs ds r r' : List Char}

/-! ## Characters of numbers -/

/-- The characters that numbers are made of. -/
def isNumberChar (c : Char) : Bool :=
  c.isDigit || ['-', '+', '.', 'e', 'E'].contains c

/-- No number goes on with the text. -/
def Ended (r : List Char) : Prop :=
  NotHead (isNumberChar · = true) r

/-- The text of a number: not empty, and made of the characters of numbers only. -/
structure IsNumberText (cs : List Char) : Prop where
  ne_nil : cs ≠ []
  all : ∀ c ∈ cs, isNumberChar c = true

/-- Numbers end where no number goes on. -/
theorem IsNumberText.append_inj
    (hcs : IsNumberText cs) (hds : IsNumberText ds) (hr : Ended r) (hr' : Ended r')
    (heq : cs ++ r = ds ++ r') :
    cs = ds ∧ r = r' := by
  obtain ⟨htake, hdrop⟩ := Decimal.takeWhile_append_of_notHead hcs.all hr
  obtain ⟨htake', hdrop'⟩ := Decimal.takeWhile_append_of_notHead hds.all hr'
  rw [heq] at htake hdrop
  exact ⟨htake.symm.trans htake', hdrop.symm.trans hdrop'⟩

theorem isNumberChar_iff {c : Char} :
    isNumberChar c = true ↔ c.isDigit = true ∨ c ∈ ['-', '+', '.', 'e', 'E'] := by
  rw [isNumberChar, Bool.or_eq_true, List.contains_iff_mem]

theorem isNumberChar_of_mem_signChars {negative : Bool} {c : Char} (hc : c ∈ signChars negative) :
    isNumberChar c = true := by
  cases negative with
  | false => cases hc
  | true =>
      obtain rfl := List.mem_singleton.mp hc
      rfl

/-- A sign is told from what follows it. -/
theorem signChars_append_inj
    {negative negative' : Bool} (hcs : NotHead (fun c => c = '-' ∨ c = '+') cs)
    (hds : NotHead (fun c => c = '-' ∨ c = '+') ds)
    (heq : signChars negative ++ cs = signChars negative' ++ ds) :
    negative = negative' ∧ cs = ds := by
  cases negative <;> cases negative'
  · exact ⟨rfl, heq⟩
  · change cs = '-' :: ds at heq
    subst heq
    exact absurd (.inl rfl) (hcs _ rfl)
  · change '-' :: cs = ds at heq
    subst heq
    exact absurd (.inl rfl) (hds _ rfl)
  · exact ⟨rfl, (List.cons.inj heq).2⟩

/-! ## Whole numbers -/

theorem isNumberText_intChars (n : Int) : IsNumberText (intChars n) := by
  refine ⟨List.append_ne_nil_of_right_ne_nil _ (Decimal.digitChars_ne_nil _), ?_⟩
  intro c hc
  rcases List.mem_append.mp hc with hsign | hdigit
  · exact isNumberChar_of_mem_signChars hsign
  · exact isNumberChar_iff.mpr (.inl (Decimal.allDigits_digitChars _ c hdigit))

theorem notHead_digitChars (n : Nat) : NotHead (fun c => c = '-' ∨ c = '+') (digitChars n) := by
  have hhead := (Decimal.allDigits_digitChars n).notHead_sign (Decimal.digitChars_ne_nil n) []
  rwa [List.append_nil] at hhead

theorem intChars_injective : Function.Injective intChars := by
  intro m n heq
  obtain ⟨hsign, hdigits⟩ :=
    signChars_append_inj (notHead_digitChars _) (notHead_digitChars _) heq
  have habs := Decimal.digitChars_injective hdigits
  rw [decide_eq_decide] at hsign
  omega

/-! ## Doubles -/

/-- The text of a finite double is a sign and a decimal that rounds to the double. -/
theorem exists_floatChars (hx : x.isFinite = true) :
    ∃ negative m e cs d, Decimal.exact x = .finite negative m e ∧ Normalized m e ∧
      floatChars x = signChars negative ++ cs ∧ Denotes cs d ∧ Covers m e d.value := by
  obtain ⟨negative, m, e, hexact⟩ := Decimal.exists_exact hx
  have hnormalized := (Decimal.toNat_toBits_of_exact hexact).2
  obtain ⟨d, hd⟩ : ∃ d : Scaled, d = if m = 0 then ⟨0, 0⟩ else Decimal.shortest .even m e :=
    ⟨_, rfl⟩
  refine ⟨negative, m, e, numberStyle.layout d, d, hexact, hnormalized, ?_,
    Decimal.denotes_layout numberStyle rfl d, ?_⟩
  · rw [floatChars, hexact, hd]
    rfl
  · rw [hd]
    split
    · next hzero =>
        have hvalue : (⟨0, 0⟩ : Scaled).value = 0 := by
          rw [Scaled.value, Nat.cast_zero, zero_mul]
        have hexponent := hnormalized.full.resolve_left (by omega)
        rw [hvalue, hzero, hexponent]
        exact (covers_zero_iff le_rfl).mpr (two_zpow_pos _).le
    · next hpos => exact Decimal.covers_shortest _ (Nat.pos_of_ne_zero hpos) e

theorem isNumberText_floatChars (hx : x.isFinite = true) : IsNumberText (floatChars x) := by
  obtain ⟨negative, m, e, cs, d, -, -, htext, hdenotes, -⟩ := exists_floatChars hx
  have hne : cs ≠ [] := by
    rintro rfl
    exact hdenotes.not_allDigits nofun
  rw [htext]
  refine ⟨List.append_ne_nil_of_right_ne_nil _ hne, ?_⟩
  intro c hc
  rcases List.mem_append.mp hc with hsign | hmem
  · exact isNumberChar_of_mem_signChars hsign
  · exact isNumberChar_iff.mpr (hdenotes.mem hmem)

theorem floatChars_inj (hx : x.isFinite = true) (hy : y.isFinite = true)
    (heq : floatChars x = floatChars y) : x = y := by
  obtain ⟨negative, m, e, cs, d, hexact, hnorm, htext, hdenotes, hcovers⟩ := exists_floatChars hx
  obtain ⟨negative', m', e', cs', d', hexact', hnorm', htext', hdenotes', hcovers'⟩ :=
    exists_floatChars hy
  rw [htext, htext'] at heq
  obtain ⟨rfl, rfl⟩ := signChars_append_inj hdenotes.notHead_sign hdenotes'.notHead_sign heq
  rw [hdenotes.value_eq hdenotes'] at hcovers
  obtain ⟨rfl, rfl⟩ := hcovers.unique hcovers' hnorm hnorm'
  exact Decimal.eq_of_exact hexact hexact'

theorem intChars_ne_floatChars (n : Int) (hx : x.isFinite = true) : intChars n ≠ floatChars x := by
  intro heq
  obtain ⟨negative, m, e, cs, d, -, -, htext, hdenotes, -⟩ := exists_floatChars hx
  rw [htext] at heq
  obtain ⟨-, rfl⟩ := signChars_append_inj (notHead_digitChars _) hdenotes.notHead_sign heq
  exact hdenotes.not_allDigits (Decimal.allDigits_digitChars _)

/-! ## Strings -/

theorem unicodeEscape_hexDigit {c : Char} (hc : c.toNat < 0x20) (rest : List Char) :
    unicodeEscape ('0' :: '0' :: hexDigit (c.toNat / 16) :: hexDigit (c.toNat % 16) :: rest) =
      some (c, rest) := by
  have hzero : hexValue? '0' = some 0 := rfl
  have hhigh := BatchId.hexValue?_hexDigit (show c.toNat / 16 < 16 by omega)
  have hlow := BatchId.hexValue?_hexDigit (show c.toNat % 16 < 16 by omega)
  have hcode : ((0 * 16 + 0) * 16 + c.toNat / 16) * 16 + c.toNat % 16 = c.toNat := by omega
  have hfour :
      fourHex ('0' :: '0' :: hexDigit (c.toNat / 16) :: hexDigit (c.toNat % 16) :: rest) =
        some (c.toNat, rest) := by
    rw [fourHex, hzero, hhigh, hlow]
    exact congrArg (fun code => some (code, rest)) hcode
  rw [unicodeEscape, hfour]
  change (if 0xD800 ≤ c.toNat ∧ c.toNat ≤ 0xDBFF then _ else
    if 0xDC00 ≤ c.toNat ∧ c.toNat ≤ 0xDFFF then none else some (Char.ofNat c.toNat, rest)) = _
  rw [if_neg (by omega), if_neg (by omega), Char.ofNat_toNat]

theorem stringRest_unicodeEscape {text : List Char} {d : Char} {rest : List Char} (fuel : Nat)
    (read : List Char) (hescape : unicodeEscape text = some (d, rest)) :
    stringRest (fuel + 1) read ('\\' :: 'u' :: text) = stringRest fuel (d :: read) rest := by
  rw [stringRest.eq_def]
  dsimp only
  rw [if_neg (by decide), if_pos rfl]
  simp only [hescape]

/-- What stands for a character within a string is read as the character. -/
theorem stringRest_escapeChar (fuel : Nat) (read : List Char) (c : Char) (rest : List Char) :
    stringRest (fuel + 1) read (escapeChar c ++ rest) = stringRest fuel (c :: read) rest := by
  unfold escapeChar
  split_ifs with hquote hbackslash hn hr ht hb hf hcontrol
  · subst hquote
    rfl
  · subst hbackslash
    rfl
  · subst hn
    rfl
  · subst hr
    rfl
  · subst ht
    rfl
  · subst hb
    rfl
  · subst hf
    rfl
  · exact stringRest_unicodeEscape fuel read (unicodeEscape_hexDigit hcontrol rest)
  · rw [List.singleton_append, stringRest.eq_def]
    dsimp only
    rw [if_neg hquote, if_neg hbackslash, if_neg hcontrol]

theorem stringRest_quoted (fuel : Nat) (read cs rest : List Char) (hfuel : cs.length < fuel) :
    stringRest fuel read (cs.flatMap escapeChar ++ '"' :: rest) =
      some (read.reverse ++ cs, rest) := by
  induction cs generalizing fuel read with
  | nil =>
      obtain ⟨fuel, rfl⟩ := Nat.exists_eq_add_one_of_ne_zero (Nat.ne_of_gt hfuel)
      rw [List.append_nil]
      rfl
  | cons c cs ih =>
      rw [List.length_cons] at hfuel
      obtain ⟨fuel, rfl⟩ :=
        Nat.exists_eq_add_one_of_ne_zero (Nat.ne_of_gt (Nat.zero_lt_of_lt hfuel))
      rw [List.flatMap_cons, List.append_assoc, stringRest_escapeChar, ih fuel _ (by omega),
        List.reverse_cons, List.append_assoc]
      rfl

/-- A string ends at the quote that closes it. -/
theorem quote_append_inj {s s' : String} (heq : quote s ++ r = quote s' ++ r') :
    s = s' ∧ r = r' := by
  have hread (s : String) (r : List Char) (fuel : Nat) (hfuel : s.toList.length < fuel) :
      stringRest fuel [] (quote s ++ r).tail = some (s.toList, r) := by
    have hquoted := stringRest_quoted fuel [] s.toList r hfuel
    rw [quote, List.append_assoc, List.cons_append]
    exact hquoted
  have hfirst := hread s r (s.toList.length + s'.toList.length + 1) (by omega)
  rw [heq, hread s' r' _ (by omega)] at hfirst
  obtain ⟨hchars, hrest⟩ := Prod.mk.inj (Option.some.inj hfirst)
  exact ⟨String.toList_inj.mp hchars.symm, hrest.symm⟩

end Repricing.Json

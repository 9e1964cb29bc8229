import Mathlib.Algebra.Ring.Nat
import Repricing.Identifier

/-!
# Identifiers of runs as text

The text of an identifier is thirty-two hexadecimal digits in five groups.  It is read back as the
identifier.
-/

namespace Repricing.BatchId

/-! ## Hexadecimal digits -/

theorem hexValue?_hexDigit {d : Nat} (hd : d < 16) : Json.hexValue? (Json.hexDigit d) = some d := by
  have hdigits : ∀ d < 16, Json.hexValue? (Json.hexDigit d) = some d := by decide
  exact hdigits d hd

theorem length_hexChars (count n : Nat) : (hexChars count n).length = count := by
  induction count generalizing n with
  | zero => rfl
  | succ count ih => rw [hexChars, List.length_append, ih, List.length_singleton]

/-- The digits of a number denote the number, if there are enough of them. -/
theorem hexNumber?_hexChars {count n : Nat} (hn : n < 16 ^ count) :
    hexNumber? (hexChars count n) = some n := by
  induction count generalizing n with
  | zero =>
      obtain rfl : n = 0 := by omega
      rfl
  | succ count ih =>
      have hquotient : n / 16 < 16 ^ count := by
        rw [Nat.pow_succ] at hn
        omega
      have hrest := ih hquotient
      rw [hexNumber?] at hrest ⊢
      rw [hexChars, List.foldlM_append, hrest]
      simp only [Option.bind_eq_bind, Option.bind_some, List.foldlM_cons, List.foldlM_nil,
        hexValue?_hexDigit (Nat.mod_lt n (by decide : 16 > 0)), Option.map_some]
      rw [Nat.div_add_mod]
      rfl

/-! ## Groups -/

theorem exists_groups {ds : List Char} (hlength : ds.length = 32) :
    ∃ a b c d e : List Char, ds = a ++ (b ++ (c ++ (d ++ e))) ∧
      a.length = 8 ∧ b.length = 4 ∧ c.length = 4 ∧ d.length = 4 := by
  have hfour : ∀ n, (ds.drop n).take 4 ++ ds.drop (n + 4) = ds.drop n := by
    intro n
    rw [← List.drop_drop, List.take_append_drop]
  refine ⟨ds.take 8, (ds.drop 8).take 4, (ds.drop 12).take 4, (ds.drop 16).take 4, ds.drop 20,
    ?_, ?_, ?_, ?_, ?_⟩
  · rw [hfour 16, hfour 12, hfour 8, List.take_append_drop]
  all_goals simp [hlength]

/-- The hyphens between the groups are found where they were put. -/
theorem ofGroups?_grouped {ds : List Char} (hlength : ds.length = 32) :
    ofGroups? (grouped ds) = ofDigits? ds := by
  obtain ⟨a, b, c, d, e, rfl, ha, hb, hc, hd⟩ := exists_groups hlength
  have hgrouped : grouped (a ++ (b ++ (c ++ (d ++ e)))) =
      a ++ '-' :: (b ++ '-' :: (c ++ '-' :: (d ++ '-' :: e))) := by
    simp [grouped, List.drop_append, ha, hb, hc, hd, List.drop_of_length_le]
  rw [hgrouped, ofGroups?]
  simp [List.drop_append, ha, hb, hc, hd, List.drop_of_length_le, List.getElem?_append]

theorem length_grouped {ds : List Char} (hlength : ds.length = 32) :
    (grouped ds).length = 36 := by
  simp [grouped, hlength]

/-- The text of an identifier is read as the identifier. -/
theorem read?_text (id : BatchId) : read? id.text = some id := by
  have hlength := length_hexChars 32 id.bits.toNat
  have hnumber : hexNumber? (hexChars 32 id.bits.toNat) = some id.bits.toNat :=
    hexNumber?_hexChars id.bits.isLt
  rw [read?, text, String.toList_ofList, chars, length_grouped hlength]
  change ofGroups? (grouped (hexChars 32 id.bits.toNat)) = some id
  rw [ofGroups?_grouped hlength, ofDigits?, if_pos hlength, hnumber, Option.map_some,
    BitVec.ofNat_toNat, BitVec.setWidth_eq]

end Repricing.BatchId

import Repricing.Matching.Similarity
import Repricing.Proofs.Float.Ratios
import Repricing.Proofs.Matching.EditDistance
import Repricing.Proofs.Matching.Postings

/-!
# What similarity measures

The overlap of tokens is a ratio of the sizes of two sets, so neither order nor repetition counts.
The similarity of two texts does not depend on which comes first, lies between zero and one, and is
one for texts that are equal or have the same tokens.
-/

namespace Repricing

variable {a b : String} {x y z : Float}

/-! ## The greater of two doubles -/

theorem greater_eq_left (hle : y ≤ x) : greater x y = x :=
  if_neg (not_lt_of_le hle)

theorem le_greater_left (hx : x ≤ z) : x ≤ greater x y := by
  unfold greater
  split
  · next hlt => exact le_of_lt hlt
  · exact le_self_of_le hx

theorem greater_mem
    (hx : (0.0 : Float) ≤ x ∧ x ≤ 1.0) (hy : (0.0 : Float) ≤ y ∧ y ≤ 1.0) :
    (0.0 : Float) ≤ greater x y ∧ greater x y ≤ 1.0 := by
  unfold greater
  split
  · exact hy
  · exact hx

/-! ## Tokens -/

/-- The tokens of a text, of which only the set counts. -/
def textTokens (text : String) : Finset String :=
  (Text.tokens text).toFinset

theorem mem_textTokens {token text : String} :
    token ∈ textTokens text ↔ token ∈ Text.tokens text :=
  List.mem_toFinset

theorem toFinset_eraseDups (text : String) :
    (Text.tokens text).eraseDups.toFinset = textTokens text := by
  ext token
  rw [List.mem_toFinset, List.mem_eraseDups, mem_textTokens]

/-- A word has at least one character of its own. -/
theorem length_firstWord_le (cs : List Char) :
    (Text.firstWord cs).1.length + (Text.firstWord cs).2.length ≤ cs.length := by
  induction cs with
  | nil => exact Nat.le_refl 0
  | cons c rest ih =>
      rw [Text.firstWord]
      dsimp only
      rw [List.length_cons]
      split
      · split
        · dsimp only [List.length_nil]
          omega
        · next hword =>
            have hpos := List.length_pos_iff.mpr (mt List.isEmpty_iff.mpr hword)
            dsimp only [List.length_nil, List.length_cons]
            omega
      · dsimp only [List.length_cons]
        omega

theorem length_words_le (cs : List Char) : (Text.words cs).length ≤ cs.length := by
  have hle := length_firstWord_le cs
  rw [Text.words]
  dsimp only
  split
  · omega
  · next hword =>
      have hpos := List.length_pos_iff.mpr (mt List.isEmpty_iff.mpr hword)
      rw [List.length_cons]
      omega

theorem card_textTokens_le (text : String) : (textTokens text).card ≤ text.length := by
  calc (textTokens text).card
    _ ≤ (Text.tokens text).length := List.toFinset_card_le _
    _ ≤ (Text.words text.toList).length := by
      rw [Text.tokens, List.length_map]
      exact List.length_filter_le _ _
    _ ≤ text.length := length_words_le _

theorem textTokens_eq_empty (hempty : a = "") : textTokens a = ∅ := by
  rw [hempty]
  decide

/-! ## Overlap of tokens -/

/-- The overlap is the number of tokens in both texts as a share of those in either. -/
theorem tokenOverlap_eq (a b : String) :
    tokenOverlap a b =
      if textTokens a = ∅ ∨ textTokens b = ∅ then 0.0
      else
        Float.ofNat (textTokens a ∩ textTokens b).card /
          Float.ofNat (textTokens a ∪ textTokens b).card := by
  have hempty (text : String) :
      (Text.tokens text).eraseDups.isEmpty = true ↔ textTokens text = ∅ := by
    rw [← toFinset_eraseDups, List.toFinset_eq_empty_iff, List.isEmpty_iff]
  have hcard (text : String) :
      (Text.tokens text).eraseDups.length = (textTokens text).card := by
    rw [← toFinset_eraseDups, List.toFinset_card_of_nodup (nodup_eraseDups _)]
  have hshared :
      ((Text.tokens a).eraseDups.filter (Text.tokens b).eraseDups.contains).length =
        (textTokens a ∩ textTokens b).card := by
    rw [← List.toFinset_card_of_nodup ((nodup_eraseDups _).filter _)]
    congr 1
    ext token
    rw [List.mem_toFinset, List.mem_filter, List.contains_iff_mem, Finset.mem_inter,
      List.mem_eraseDups, List.mem_eraseDups, mem_textTokens, mem_textTokens]
  rw [tokenOverlap]
  dsimp only
  rw [hshared, hcard, hcard, ← Finset.card_union]
  apply if_congr _ rfl rfl
  rw [Bool.or_eq_true, hempty, hempty]

theorem tokenOverlap_comm (a b : String) : tokenOverlap a b = tokenOverlap b a := by
  rw [tokenOverlap_eq, tokenOverlap_eq, Finset.inter_comm, Finset.union_comm]
  exact if_congr or_comm rfl rfl

theorem card_union_bounds
    (hleft : textTokens a ≠ ∅) (ha : a.length < 2 ^ 53) (hb : b.length < 2 ^ 53) :
    0 < (textTokens a ∪ textTokens b).card ∧
      (textTokens a ∪ textTokens b).card < 2 ^ 64 := by
  have hunion := Finset.card_union_le (textTokens a) (textTokens b)
  have hcarda := card_textTokens_le a
  have hcardb := card_textTokens_le b
  refine ⟨?_, by omega⟩
  exact (Finset.card_pos.mpr (Finset.nonempty_iff_ne_empty.mpr hleft)).trans_le
    (Finset.card_le_card Finset.subset_union_left)

theorem tokenOverlap_mem (ha : a.length < 2 ^ 53) (hb : b.length < 2 ^ 53) :
    (0.0 : Float) ≤ tokenOverlap a b ∧ tokenOverlap a b ≤ 1.0 := by
  rw [tokenOverlap_eq]
  split
  · decide
  · next hnonempty =>
      obtain ⟨hpos, hlt⟩ := card_union_bounds (not_or.mp hnonempty).1 ha hb
      exact share_mem (Finset.card_le_card Finset.inter_subset_union) hpos hlt

theorem tokenOverlap_eq_one
    (hsame : textTokens a = textTokens b) (hnonempty : textTokens a ≠ ∅)
    (ha : a.length < 2 ^ 53) (hb : b.length < 2 ^ 53) :
    tokenOverlap a b = 1.0 := by
  obtain ⟨hpos, hlt⟩ := card_union_bounds hnonempty ha hb
  rw [tokenOverlap_eq, if_neg (not_or.mpr ⟨hnonempty, hsame ▸ hnonempty⟩)]
  rw [← hsame, Finset.union_self] at hpos hlt ⊢
  rw [Finset.inter_self]
  exact share_self hpos hlt

/-! ## Agreement of characters -/

theorem editSimilarity_comm (a b : String) : editSimilarity a b = editSimilarity b a := by
  rw [editSimilarity, editSimilarity, Bool.and_comm, editDistance_comm, max_comm]

theorem editSimilarity_mem (ha : a.length < 2 ^ 53) (hb : b.length < 2 ^ 53) :
    (0.0 : Float) ≤ editSimilarity a b ∧ editSimilarity a b ≤ 1.0 := by
  rw [editSimilarity]
  split
  · decide
  · next hnonempty =>
      have hpos : 0 < max a.toList.length b.toList.length := by
        rw [Bool.and_eq_true, List.isEmpty_iff_length_eq_zero, List.isEmpty_iff_length_eq_zero]
          at hnonempty
        omega
      have hlt : max a.toList.length b.toList.length < 2 ^ 53 := max_lt ha hb
      exact one_sub_mem (share_mem (editDistance_le_max _ _) hpos (by omega))

/-! ## Similarity -/

theorem textSimilarity_comm (a b : String) : textSimilarity a b = textSimilarity b a := by
  rw [textSimilarity, textSimilarity, tokenOverlap_comm, editSimilarity_comm]
  exact if_congr or_comm rfl (if_congr eq_comm rfl rfl)

theorem textSimilarity_mem (ha : a.length < 2 ^ 53) (hb : b.length < 2 ^ 53) :
    (0.0 : Float) ≤ textSimilarity a b ∧ textSimilarity a b ≤ 1.0 := by
  unfold textSimilarity
  split
  · decide
  · split
    · decide
    · exact greater_mem (tokenOverlap_mem ha hb) (editSimilarity_mem ha hb)

theorem textSimilarity_of_empty (hempty : a = "" ∨ b = "") : textSimilarity a b = 0.0 :=
  if_pos hempty

theorem textSimilarity_self (hne : a ≠ "") : textSimilarity a a = 1.0 := by
  rw [textSimilarity, if_neg (by simpa using hne), if_pos rfl]

theorem textSimilarity_eq_one
    (hsame : textTokens a = textTokens b) (hnonempty : textTokens a ≠ ∅)
    (ha : a.length < 2 ^ 53) (hb : b.length < 2 ^ 53) :
    textSimilarity a b = 1.0 := by
  have hne : ¬ (a = "" ∨ b = "") := by
    rintro (rfl | rfl)
    · exact hnonempty (textTokens_eq_empty rfl)
    · exact hnonempty (hsame.trans (textTokens_eq_empty rfl))
  rw [textSimilarity, if_neg hne]
  split
  · rfl
  · rw [tokenOverlap_eq_one hsame hnonempty ha hb]
    exact greater_eq_left (editSimilarity_mem ha hb).2

theorem tokenOverlap_le_textSimilarity (ha : a.length < 2 ^ 53) (hb : b.length < 2 ^ 53) :
    tokenOverlap a b ≤ textSimilarity a b := by
  have hoverlap := tokenOverlap_mem ha hb
  unfold textSimilarity
  split
  · next hempty =>
      have hzero : tokenOverlap a b = 0.0 := by
        rw [tokenOverlap_eq, if_pos]
        exact hempty.imp textTokens_eq_empty textTokens_eq_empty
      rw [hzero]
      decide
  · split
    · exact hoverlap.2
    · exact le_greater_left hoverlap.2

/-- Similarity does not depend on the order of the texts and lies between zero and one. It is zero
for an empty text, one for equal texts and for texts with the same tokens, and at least the overlap
of tokens, for which only the two sets of tokens count. -/
theorem textSimilarity_laws (a b : String) (ha : a.length < 2 ^ 53) (hb : b.length < 2 ^ 53) :
    textSimilarity a b = textSimilarity b a ∧
    ((0.0 : Float) ≤ textSimilarity a b ∧ textSimilarity a b ≤ 1.0) ∧
    (a = "" ∨ b = "" → textSimilarity a b = 0.0) ∧
    (a = b → a ≠ "" → textSimilarity a b = 1.0) ∧
    (textTokens a = textTokens b → textTokens a ≠ ∅ → textSimilarity a b = 1.0) ∧
    tokenOverlap a b ≤ textSimilarity a b ∧
    tokenOverlap a b = tokenOverlap b a ∧
    ∀ a' b', textTokens a' = textTokens a → textTokens b' = textTokens b →
      tokenOverlap a' b' = tokenOverlap a b := by
  refine ⟨textSimilarity_comm a b, textSimilarity_mem ha hb, textSimilarity_of_empty, ?_, ?_,
    tokenOverlap_le_textSimilarity ha hb, tokenOverlap_comm a b, ?_⟩
  · rintro rfl hne
    exact textSimilarity_self hne
  · intro hsame hnonempty
    exact textSimilarity_eq_one hsame hnonempty ha hb
  · intro a' b' hfirst hsecond
    rw [tokenOverlap_eq, tokenOverlap_eq, hfirst, hsecond]

/-- Neither the order nor the repetition of words makes a difference. -/
theorem textSimilarity_laws_sample :
    "leo tolstoy".length < 2 ^ 53 ∧ "tolstoy leo tolstoy".length < 2 ^ 53 ∧
      textSimilarity "leo tolstoy" "tolstoy leo tolstoy" = 1.0 ∧
      textSimilarity "" "leo tolstoy" = 0.0 ∧
      textSimilarity "a" "a" = 1.0 ∧
      tokenOverlap "leo tolstoy" "war and peace" =
        tokenOverlap "tolstoy leo tolstoy" "war and peace" := by
  obtain ⟨-, -, -, -, hsame, -, -, -⟩ :=
    textSimilarity_laws "leo tolstoy" "tolstoy leo tolstoy" (by decide) (by decide)
  obtain ⟨-, -, hempty, -⟩ := textSimilarity_laws "" "leo tolstoy" (by decide) (by decide)
  obtain ⟨-, -, -, hequal, -⟩ := textSimilarity_laws "a" "a" (by decide) (by decide)
  obtain ⟨-, -, -, -, -, -, -, hsets⟩ :=
    textSimilarity_laws "tolstoy leo tolstoy" "war and peace" (by decide) (by decide)
  refine ⟨by decide, by decide, hsame ?_ ?_, hempty (.inl rfl), hequal rfl (by decide),
    hsets _ _ ?_ rfl⟩
  · decide +kernel
  · decide +kernel
  · decide +kernel

end Repricing

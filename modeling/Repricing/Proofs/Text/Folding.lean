import Repricing.Proofs.Text.Blank
import Repricing.Text.Fold

/-!
# Folding and blanks

White space folds to spaces, and spaces at either end of a text belong to no word.  So it makes no
difference to a folded text whether it was trimmed first, or whether a blank field was taken to be
missing.
-/

namespace Repricing.Text

/-! ## White space -/

/-- A code point of a set lies in one of its ranges. -/
theorem Ranges.exists_of_has {ranges : Ranges} {code : Nat} (hhas : ranges.has code = true) :
    ∃ range ∈ ranges, range.1 ≤ code ∧ code ≤ range.2 := by
  induction ranges with
  | nil => cases hhas
  | cons range rest ih =>
      obtain ⟨first, last⟩ := range
      rw [has] at hhas
      split at hhas
      · cases hhas
      · next hfirst =>
          rw [Bool.or_eq_true, decide_eq_true_iff] at hhas
          rcases hhas with hlast | hrest
          · exact ⟨_, List.mem_cons_self, Nat.le_of_not_lt hfirst, hlast⟩
          · obtain ⟨range, hrange, hbounds⟩ := ih hrest
            exact ⟨range, List.mem_cons_of_mem _ hrange, hbounds⟩

/-- White space folds to spaces. -/
theorem eq_space_of_mem_foldChar
    {c d : Char} (hblank : isBlank c = true) (hmem : d ∈ foldChar c) :
    d = ' ' := by
  -- There are few blanks, so each of them is looked up in the tables.
  have hspaces : ∀ range ∈ blankRanges, ∀ code ∈ List.range' range.1 (range.2 + 1 - range.1),
      (foldChar (Char.ofNat code)).all (· == ' ') = true := by decide +kernel
  obtain ⟨range, hrange, hfirst, hlast⟩ := Ranges.exists_of_has hblank
  have hcode : c.toNat ∈ List.range' range.1 (range.2 + 1 - range.1) := by
    rw [List.mem_range'_1]
    omega
  have hall := hspaces range hrange c.toNat hcode
  rw [Char.ofNat_toNat] at hall
  exact eq_of_beq (List.all_eq_true.mp hall d hmem)

theorem eq_space_of_mem_flatMap_foldChar
    {cs : List Char} (hblank : ∀ c ∈ cs, isBlank c = true) :
    ∀ d ∈ cs.flatMap foldChar, d = ' ' := by
  intro d hd
  obtain ⟨c, hc, hmem⟩ := List.mem_flatMap.mp hd
  exact eq_space_of_mem_foldChar (hblank c hc) hmem

/-! ## Words -/

theorem words_cons_space (cs : List Char) : words (' ' :: cs) = words cs := by
  simp [words, firstWord]

theorem firstWord_append_space (cs : List Char) : firstWord (cs ++ [' ']) = firstWord cs := by
  induction cs with
  | nil => rfl
  | cons c rest ih => rw [List.cons_append, firstWord, ih, firstWord]

theorem words_append_space (cs : List Char) : words (cs ++ [' ']) = words cs := by
  rw [words, firstWord_append_space, words]

/-- Spaces around a text belong to no word. -/
theorem words_of_spaces_around
    {before after : List Char} (hbefore : ∀ c ∈ before, c = ' ') (hafter : ∀ c ∈ after, c = ' ')
    (cs : List Char) :
    words (before ++ cs ++ after) = words cs := by
  have hleft : words (before ++ cs) = words cs := by
    rw [List.eq_replicate_of_mem hbefore]
    induction before.length with
    | zero => rfl
    | succ n ih => rw [List.replicate_succ, List.cons_append, words_cons_space, ih]
  have hright : words (before ++ cs ++ after) = words (before ++ cs) := by
    rw [List.eq_replicate_of_mem hafter]
    induction after.length with
    | zero => rw [List.replicate_zero, List.append_nil]
    | succ n ih => rw [List.replicate_succ', ← List.append_assoc, words_append_space, ih]
  rw [hright, hleft]

/-! ## Trimmed and missing texts -/

theorem foldChars_trimmed (cs : List Char) : foldChars (trimmed cs) = foldChars cs := by
  obtain ⟨before, after, hcs, hbefore, hafter⟩ := exists_blanks_around cs
  have hwords : words (cs.flatMap foldChar) = words ((trimmed cs).flatMap foldChar) := by
    calc words (cs.flatMap foldChar)
        = words (before.flatMap foldChar ++ (trimmed cs).flatMap foldChar
            ++ after.flatMap foldChar) := by
          rw [← List.flatMap_append, ← List.flatMap_append, ← hcs]
      _ = words ((trimmed cs).flatMap foldChar) :=
          words_of_spaces_around (eq_space_of_mem_flatMap_foldChar hbefore)
            (eq_space_of_mem_flatMap_foldChar hafter) _
  rw [foldChars, foldChars, hwords]

/-- Blanks around a text do not show in its folded form. -/
theorem fold_trim (s : String) : fold (trim s) = fold s := by
  rw [fold, fold, trim, String.toList_ofList, foldChars_trimmed]

/-- A field that is blank folds as one that is missing. -/
theorem fold_getD_present (field : Option String) :
    fold ((present field).getD "") = fold (field.getD "") := by
  have hfold : ∀ field : Option String, fold (field.getD "") = field.elim (fold "") fold := by
    rintro (_ | s)
    · rfl
    · rfl
  rw [hfold, hfold, elim_present fold_trim]

end Repricing.Text

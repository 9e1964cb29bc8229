import Repricing.Matching.Keys
import Repricing.Proofs.Text.Folding
import Repricing.Proofs.Text.Settled

/-!
# Folding what is folded

A folded text is a line of words that are made of letters and numbers.  Each of these characters
folds to itself, and a line of words is read back as the same words, so folding the text once more
does not change it.  Nor does it change what is derived from the folded text.
-/

namespace Repricing.Text

/-! ## Words of a text -/

theorem firstWord_space (cs : List Char) : firstWord (' ' :: cs) = ([], words cs) := by
  simp [firstWord, words]

theorem firstWord_cons {c : Char} (hc : c ≠ ' ') (cs : List Char) :
    firstWord (c :: cs) = (c :: (firstWord cs).1, (firstWord cs).2) := by
  simp [firstWord, hc]

theorem firstWord_append {word : List Char} (hword : ' ' ∉ word) (cs : List Char) :
    firstWord (word ++ cs) = (word ++ (firstWord cs).1, (firstWord cs).2) := by
  induction word with
  | nil => rfl
  | cons c rest ih =>
      rw [List.mem_cons, not_or] at hword
      obtain ⟨hc, hrest⟩ := hword
      rw [List.cons_append, firstWord_cons (Ne.symm hc), ih hrest, List.cons_append]

/-- A word up to a space is the first one. -/
theorem words_append_cons_space {word : List Char} (hne : word ≠ []) (hword : ' ' ∉ word)
    (cs : List Char) :
    words (word ++ ' ' :: cs) = word :: words cs := by
  rw [words, firstWord_append hword, firstWord_space, List.append_nil]
  exact if_neg (by rwa [List.isEmpty_iff])

theorem words_eq_singleton {word : List Char} (hne : word ≠ []) (hword : ' ' ∉ word) :
    words word = [word] := by
  have hfirst := firstWord_append hword []
  rw [List.append_nil, firstWord, List.append_nil] at hfirst
  rw [words, hfirst]
  exact if_neg (by rwa [List.isEmpty_iff])

/-- The words of a line of words are those words. -/
theorem words_unwords {ws : List (List Char)} (hws : ∀ w ∈ ws, w ≠ [] ∧ ' ' ∉ w) :
    words (unwords ws) = ws := by
  induction ws with
  | nil => rfl
  | cons w rest ih =>
      obtain ⟨⟨hne, hspace⟩, hrest⟩ := List.forall_mem_cons.mp hws
      cases rest with
      | nil => rw [unwords, List.intercalate_singleton, words_eq_singleton hne hspace]
      | cons next others =>
          rw [unwords, List.intercalate_cons_cons, List.append_assoc, List.singleton_append,
            words_append_cons_space hne hspace, ← unwords, ih hrest]

theorem words_cons {c : Char} (hc : c ≠ ' ') (cs : List Char) :
    words (c :: cs) = (c :: (firstWord cs).1) :: (firstWord cs).2 := by
  rw [words, firstWord_cons hc]
  rfl

theorem mem_of_mem_firstWord {cs : List Char} {c : Char} (hmem : c ∈ (firstWord cs).1) :
    c ∈ cs ∧ c ≠ ' ' := by
  induction cs with
  | nil => cases hmem
  | cons first rest ih =>
      by_cases hfirst : first = ' '
      · subst hfirst
        rw [firstWord_space] at hmem
        cases hmem
      · rw [firstWord_cons hfirst] at hmem
        rcases List.mem_cons.mp hmem with rfl | hmem
        · exact ⟨List.mem_cons_self, hfirst⟩
        · obtain ⟨hrest, hspace⟩ := ih hmem
          exact ⟨List.mem_cons_of_mem _ hrest, hspace⟩

theorem mem_words_of_mem_firstWord {cs w : List Char} (hw : w ∈ (firstWord cs).2) :
    w ∈ words cs := by
  rw [words]
  dsimp only
  split
  · exact hw
  · exact List.mem_cons_of_mem _ hw

/-- Words are not empty, and they are made of the characters of the text other than spaces. -/
theorem mem_of_mem_words {cs w : List Char} (hw : w ∈ words cs) :
    w ≠ [] ∧ ∀ c ∈ w, c ∈ cs ∧ c ≠ ' ' := by
  induction cs with
  | nil => cases hw
  | cons first rest ih =>
      have hlater : w ∈ words rest → w ≠ [] ∧ ∀ c ∈ w, c ∈ first :: rest ∧ c ≠ ' ' := by
        intro hw
        obtain ⟨hne, hmem⟩ := ih hw
        exact ⟨hne, fun c hc => ⟨List.mem_cons_of_mem _ (hmem c hc).1, (hmem c hc).2⟩⟩
      by_cases hfirst : first = ' '
      · subst hfirst
        rw [words_cons_space] at hw
        exact hlater hw
      · rw [words_cons hfirst] at hw
        rcases List.mem_cons.mp hw with rfl | hw
        · refine ⟨List.cons_ne_nil _ _, fun c hc => mem_of_mem_firstWord ?_⟩
          rwa [firstWord_cons hfirst]
        · exact hlater (mem_words_of_mem_firstWord hw)

/-! ## Folded texts -/

/-- The words of a folded text are made of letters and numbers that fold to themselves. -/
theorem foldChar_eq_of_mem_words {cs w : List Char} (hw : w ∈ words (cs.flatMap foldChar)) :
    ∀ c ∈ w, isAlphanumeric c = true ∧ foldChar c = [c] := by
  intro c hc
  obtain ⟨hmem, hspace⟩ := (mem_of_mem_words hw).2 c hc
  obtain ⟨d, -, hd⟩ := List.mem_flatMap.mp hmem
  exact (eq_space_or_foldChar_eq_of_mem hd).resolve_left hspace

/-- A line of words folds to itself when each of its letters does. -/
theorem flatMap_foldChar_unwords {ws : List (List Char)}
    (hws : ∀ w ∈ ws, ∀ c ∈ w, foldChar c = [c]) :
    (unwords ws).flatMap foldChar = unwords ws := by
  have hspace : [' '].flatMap foldChar = [' '] := by decide +kernel
  have hword : ∀ w ∈ ws, w.flatMap foldChar = w := by
    intro w hw
    rw [List.flatMap_congr (hws w hw), List.flatMap_singleton']
  induction ws with
  | nil => rfl
  | cons w rest ih =>
      obtain ⟨hw, hrest⟩ := List.forall_mem_cons.mp hword
      have hline := ih (List.forall_mem_cons.mp hws).2 hrest
      cases rest with
      | nil => rwa [unwords, List.intercalate_singleton]
      | cons next others =>
          rw [unwords, List.intercalate_cons_cons, ← unwords, List.flatMap_append,
            List.flatMap_append, hw, hspace, hline]

theorem foldChars_foldChars (cs : List Char) : foldChars (foldChars cs) = foldChars cs := by
  have hwords : words (unwords (words (cs.flatMap foldChar))) = words (cs.flatMap foldChar) := by
    apply words_unwords
    intro w hw
    obtain ⟨hne, hmem⟩ := mem_of_mem_words hw
    exact ⟨hne, fun hspace => (hmem ' ' hspace).2 rfl⟩
  have hline : (foldChars cs).flatMap foldChar = foldChars cs := by
    apply flatMap_foldChar_unwords
    intro w hw c hc
    exact (foldChar_eq_of_mem_words hw c hc).2
  rw [foldChars, hline, foldChars, hwords]

theorem fold_fold (s : String) : fold (fold s) = fold s := by
  rw [fold, fold, String.toList_ofList, foldChars_foldChars]

example : fold "  İzmir – Ĳssel, " = "izmir ijssel" := by decide +kernel

/-- Folding a folded text gives the same text, a line of words made of letters and numbers with one
space between neighbours; its tokens are the same, and so are the keys of fields that were folded
before. -/
theorem fold_idempotent :
    (∀ s : String,
      fold (fold s) = fold s ∧
      tokens (fold (fold s)) = tokens (fold s) ∧
      ∃ ws : List (List Char), (fold s).toList = [' '].intercalate ws ∧
        ∀ w ∈ ws, w ≠ [] ∧ ∀ c ∈ w, isAlphanumeric c = true ∧ c ≠ ' ') ∧
    ∀ (isbn : Option String) (title author publisher : String),
      MatchKeys.ofFields isbn (fold title) (fold author) (fold publisher) =
        MatchKeys.ofFields isbn title author publisher := by
  refine ⟨fun s => ⟨fold_fold s, congrArg tokens (fold_fold s), ?_⟩, ?_⟩
  · refine ⟨words (s.toList.flatMap foldChar), ?_, ?_⟩
    · rw [fold, String.toList_ofList, foldChars, unwords]
    · intro w hw
      obtain ⟨hne, hmem⟩ := mem_of_mem_words hw
      refine ⟨hne, fun c hc => ⟨?_, (hmem c hc).2⟩⟩
      exact (foldChar_eq_of_mem_words hw c hc).1
  · intro isbn title author publisher
    simp only [MatchKeys.ofFields, fold_fold]

end Repricing.Text

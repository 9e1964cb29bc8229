import Mathlib.Data.List.TakeWhile
import Repricing.Text.Blank

/-!
# Blanks around texts

The visible characters of the basic Latin block are not blank.  Trimming takes only blanks away, so
it leaves a text without blanks as it is.
-/

namespace Repricing.Text

/-- Digits, letters and signs of the basic Latin block are not blank. -/
theorem isBlank_eq_false_of_visible {c : Char} (hlower : 33 ≤ c.toNat) (hupper : c.toNat ≤ 126) :
    isBlank c = false := by
  simp only [isBlank, blankRanges, Ranges.has]
  grind

theorem isBlank_eq_false_of_isDigit {c : Char} (hdigit : c.isDigit = true) :
    isBlank c = false := by
  obtain ⟨hlower, hupper⟩ : 48 ≤ c.toNat ∧ c.toNat ≤ 57 := Char.isDigit_iff_toNat.mp hdigit
  exact isBlank_eq_false_of_visible (by omega) (by omega)

variable {cs : List Char}

theorem dropWhile_isBlank_eq_self (hvisible : ∀ c ∈ cs, isBlank c = false) :
    cs.dropWhile isBlank = cs := by
  rw [List.dropWhile_eq_self_iff]
  intro hlength
  rw [hvisible _ (List.getElem_mem hlength)]
  exact Bool.false_ne_true

/-- Without blanks there is nothing to trim. -/
theorem trimmed_eq_self (hvisible : ∀ c ∈ cs, isBlank c = false) : trimmed cs = cs := by
  have hreverse : ∀ c ∈ cs.reverse, isBlank c = false := by
    intro c hc
    exact hvisible c (List.mem_reverse.mp hc)
  rw [trimmed, dropWhile_isBlank_eq_self hvisible, dropWhile_isBlank_eq_self hreverse,
    List.reverse_reverse]

/-- A text is the trimmed text with blanks around it. -/
theorem exists_blanks_around (cs : List Char) :
    ∃ before after, cs = before ++ trimmed cs ++ after ∧
      (∀ c ∈ before, isBlank c = true) ∧ ∀ c ∈ after, isBlank c = true := by
  let kept := cs.dropWhile isBlank
  have hkept : kept = trimmed cs ++ (kept.reverse.takeWhile isBlank).reverse := by
    rw [trimmed, ← List.reverse_append, List.takeWhile_append_dropWhile, List.reverse_reverse]
  refine ⟨cs.takeWhile isBlank, (kept.reverse.takeWhile isBlank).reverse, ?_, ?_, ?_⟩
  · rw [List.append_assoc, ← hkept, List.takeWhile_append_dropWhile]
  · intro c hc
    exact List.mem_takeWhile_imp hc
  · intro c hc
    exact List.mem_takeWhile_imp (List.mem_reverse.mp hc)

/-- Nothing is left of the texts that are blank, and of no others. -/
theorem trim_eq_empty_iff {s : String} : trim s = "" ↔ ∀ c ∈ s.toList, isBlank c = true := by
  rw [trim, String.ofList_eq_empty_iff]
  constructor
  · intro htrimmed c hc
    obtain ⟨before, after, hcs, hbefore, hafter⟩ := exists_blanks_around s.toList
    rw [hcs, htrimmed, List.append_nil, List.mem_append] at hc
    exact hc.elim (hbefore c) (hafter c)
  · intro hblank
    rw [trimmed, List.dropWhile_eq_nil_iff.mpr hblank]
    rfl

/-- What does not see the blanks around a text makes the same of a field whether or not it was
trimmed, and takes one that is blank for an empty text. -/
theorem elim_present
    {α : Type} {f : String → α} (htrim : ∀ s, f (trim s) = f s) (field : Option String) :
    (present field).elim (f "") f = field.elim (f "") f := by
  cases field with
  | none => rfl
  | some s =>
      rw [Option.elim_some, ← htrim s, present, Option.map_some, Option.filter_some]
      split
      · rfl
      · next hempty =>
          have hempty : trim s = "" := by simpa using hempty
          rw [hempty]
          rfl

end Repricing.Text

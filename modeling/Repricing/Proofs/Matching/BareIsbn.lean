import Mathlib.Data.List.Basic
import Repricing.Matching.Keys
import Repricing.Proofs.Text.Blank

/-!
# Bare ISBNs

Bare ISBNs stay as they are when they are made bare once more, and blanks around an ISBN do not
count.
-/

namespace Repricing

/-- What is kept of a character of an ISBN. -/
def isbnChar? (c : Char) : Option Char :=
  if c.isDigit then some c
  else if c = 'x' ∨ c = 'X' then some 'X'
  else none

theorem isbnChars_eq_filterMap (cs : List Char) : isbnChars cs = cs.filterMap isbnChar? := rfl

/-- What is kept is kept again as it is. -/
theorem isbnChar?_of_isbnChar? {c d : Char} (hkept : isbnChar? c = some d) :
    isbnChar? d = some d := by
  unfold isbnChar? at hkept
  split at hkept
  · next hdigit =>
      obtain rfl := Option.some.inj hkept
      exact if_pos hdigit
  · split at hkept
    · obtain rfl := Option.some.inj hkept
      rfl
    · cases hkept

theorem isbnChars_isbnChars (cs : List Char) : isbnChars (isbnChars cs) = isbnChars cs := by
  rw [isbnChars_eq_filterMap, isbnChars_eq_filterMap, List.filterMap_filterMap]
  congr 1
  funext c
  cases hkept : isbnChar? c with
  | none => rfl
  | some d => exact isbnChar?_of_isbnChar? hkept

theorem bareIsbn?_congr {s t : String} (hchars : isbnChars s.toList = isbnChars t.toList) :
    bareIsbn? s = bareIsbn? t := by
  rw [bareIsbn?, bareIsbn?, hchars]

/-- A bare ISBN consists of the characters that count. -/
theorem toList_of_bareIsbn? {s key : String} (hkey : bareIsbn? s = some key) :
    key.toList = isbnChars s.toList := by
  unfold bareIsbn? at hkey
  dsimp only at hkey
  split at hkey
  · rw [← Option.some.inj hkey, String.toList_ofList]
  · split at hkey
    · rw [← Option.some.inj hkey, String.toList_ofList]
    · cases hkey

/-- A bare ISBN is its own bare form. -/
theorem bareIsbn?_of_bareIsbn? {s key : String} (hkey : bareIsbn? s = some key) :
    bareIsbn? key = some key := by
  rw [← hkey]
  apply bareIsbn?_congr
  rw [toList_of_bareIsbn? hkey, isbnChars_isbnChars]

/-- White space does not count in an ISBN. -/
theorem isbnChar?_of_isBlank {c : Char} (hblank : Text.isBlank c = true) :
    isbnChar? c = none := by
  have hdigit : ¬ c.isDigit = true := by
    intro hdigit
    rw [Text.isBlank_eq_false_of_isDigit hdigit] at hblank
    cases hblank
  have hx : ¬ (c = 'x' ∨ c = 'X') := by
    rintro (rfl | rfl)
    · exact absurd hblank (by decide)
    · exact absurd hblank (by decide)
  rw [isbnChar?, if_neg hdigit, if_neg hx]

theorem isbnChars_of_blank {cs : List Char} (hblank : ∀ c ∈ cs, Text.isBlank c = true) :
    isbnChars cs = [] := by
  rw [isbnChars_eq_filterMap, List.filterMap_eq_nil_iff]
  intro c hc
  exact isbnChar?_of_isBlank (hblank c hc)

theorem isbnChars_trimmed (cs : List Char) : isbnChars (Text.trimmed cs) = isbnChars cs := by
  obtain ⟨before, after, hcs, hbefore, hafter⟩ := Text.exists_blanks_around cs
  calc isbnChars (Text.trimmed cs)
      = isbnChars before ++ isbnChars (Text.trimmed cs) ++ isbnChars after := by
        rw [isbnChars_of_blank hbefore, isbnChars_of_blank hafter, List.nil_append,
          List.append_nil]
    _ = isbnChars cs := by
        simp only [isbnChars_eq_filterMap]
        rw [← List.filterMap_append, ← List.filterMap_append, ← hcs]

theorem bareIsbn?_trim (s : String) : bareIsbn? (Text.trim s) = bareIsbn? s := by
  apply bareIsbn?_congr
  rw [Text.trim, String.toList_ofList, isbnChars_trimmed]

/-- A field that is blank has no ISBN, like one that is missing. -/
theorem bind_bareIsbn?_present (field : Option String) :
    (Text.present field).bind bareIsbn? = field.bind bareIsbn? := by
  have hbind : ∀ field : Option String,
      field.bind bareIsbn? = field.elim (bareIsbn? "") bareIsbn? := by
    rintro (_ | s)
    · rfl
    · rfl
  rw [hbind, hbind, Text.elim_present bareIsbn?_trim]

end Repricing

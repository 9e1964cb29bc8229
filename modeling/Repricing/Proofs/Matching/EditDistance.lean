import Mathlib.Order.MinMax
import Repricing.Matching.EditDistance

/-!
# The edit distance is the least number of edits

A list is turned into another one by keeping, replacing, inserting and deleting items from its
front to its end. The rows hold, for every prefix of the second list, the least number of edits
from the prefix of the first list that has been read, so the last entry of the last row is the
distance. From this the distance does not depend on the order of the two lists, and it is at most
the length of the longer one.
-/

namespace Repricing

variable {α : Type} {a b : α} {as bs as' bs' : List α} {k n : Nat}

/-! ## Edits -/

/-- So many edits turn the first list into the second one. -/
inductive Edits : List α → List α → Nat → Prop
  | nil : Edits [] [] 0
  | keep (a : α) {as bs : List α} {n : Nat} : Edits as bs n → Edits (a :: as) (a :: bs) n
  | replace (a b : α) {as bs : List α} {n : Nat} :
      Edits as bs n → Edits (a :: as) (b :: bs) (n + 1)
  | insert (b : α) {as bs : List α} {n : Nat} : Edits as bs n → Edits as (b :: bs) (n + 1)
  | delete (a : α) {as bs : List α} {n : Nat} : Edits as bs n → Edits (a :: as) bs (n + 1)

namespace Edits

/-- Edits can be undone. -/
theorem symm (h : Edits as bs n) : Edits bs as n := by
  induction h with
  | nil => exact .nil
  | keep a _ ih => exact .keep a ih
  | replace a b _ ih => exact .replace b a ih
  | insert b _ ih => exact .delete b ih
  | delete a _ ih => exact .insert a ih

theorem append (h : Edits as bs n) (h' : Edits as' bs' k) :
    Edits (as ++ as') (bs ++ bs') (n + k) := by
  induction h with
  | nil => rwa [Nat.zero_add]
  | keep a _ ih => exact .keep a ih
  | replace a b _ ih =>
      rw [Nat.add_right_comm]
      exact .replace a b ih
  | insert b _ ih =>
      rw [Nat.add_right_comm]
      exact .insert b ih
  | delete a _ ih =>
      rw [Nat.add_right_comm]
      exact .delete a ih

/-- Edits can be made from the end to the front as well. -/
theorem reverse (h : Edits as bs n) : Edits as.reverse bs.reverse n := by
  induction h with
  | nil => exact .nil
  | keep a _ ih =>
      rw [List.reverse_cons, List.reverse_cons]
      exact ih.append (.keep a .nil)
  | replace a b _ ih =>
      rw [List.reverse_cons, List.reverse_cons]
      exact ih.append (.replace a b .nil)
  | insert b _ ih =>
      have happend := ih.append (.insert b .nil)
      rwa [List.append_nil, ← List.reverse_cons] at happend
  | delete a _ ih =>
      have happend := ih.append (.delete a .nil)
      rwa [List.append_nil, ← List.reverse_cons] at happend

theorem reverse_iff : Edits as.reverse bs.reverse n ↔ Edits as bs n := by
  constructor
  · intro h
    have hreverse := h.reverse
    rwa [List.reverse_reverse, List.reverse_reverse] at hreverse
  · exact reverse

/-- To leave out the first item of the list costs one more edit at most. -/
theorem of_cons (h : Edits (a :: as) bs n) : ∃ k ≤ n + 1, Edits as bs k := by
  generalize heq : a :: as = list at h
  induction h with
  | nil => cases heq
  | keep c h _ =>
      cases heq
      exact ⟨_, le_rfl, h.insert _⟩
  | replace c d h _ =>
      cases heq
      exact ⟨_, by omega, h.insert d⟩
  | insert d _ ih =>
      obtain ⟨k, hk, h⟩ := ih heq
      exact ⟨k + 1, by omega, h.insert d⟩
  | delete c h _ =>
      cases heq
      exact ⟨_, by omega, h⟩

theorem deleteAll (as : List α) : Edits as [] as.length := by
  induction as with
  | nil => exact .nil
  | cons a _ ih => exact .delete a ih

/-- Items are replaced as long as both lists have some, and the rest is inserted or deleted. -/
theorem le_max (as bs : List α) : ∃ n ≤ max as.length bs.length, Edits as bs n := by
  induction as generalizing bs with
  | nil => exact ⟨bs.length, le_max_right _ _, (deleteAll bs).symm⟩
  | cons a as ih =>
      cases bs with
      | nil => exact ⟨as.length + 1, le_max_left _ _, deleteAll (a :: as)⟩
      | cons b bs =>
          obtain ⟨n, hn, h⟩ := ih bs
          refine ⟨n + 1, ?_, h.replace a b⟩
          rw [List.length_cons, List.length_cons]
          omega

end Edits

/-! ## The least number of edits -/

/-- The number of edits is reached, and there are no fewer. -/
structure IsDistance (as bs : List α) (n : Nat) : Prop where
  edits : Edits as bs n
  le : ∀ k, Edits as bs k → n ≤ k

namespace IsDistance

variable {above left diagonal : Nat}

theorem unique (h : IsDistance as bs n) (h' : IsDistance as bs k) : n = k :=
  le_antisymm (h.le k h'.edits) (h'.le n h.edits)

theorem symm (h : IsDistance as bs n) : IsDistance bs as n :=
  ⟨h.edits.symm, fun k hk => h.le k hk.symm⟩

theorem nil_right (as : List α) : IsDistance as [] as.length := by
  refine ⟨.deleteAll as, ?_⟩
  induction as with
  | nil => exact fun k _ => Nat.zero_le k
  | cons a as ih =>
      rintro _ (_ | _ | _ | _ | ⟨_, h⟩)
      exact Nat.succ_le_succ (ih _ h)

theorem nil_left (bs : List α) : IsDistance [] bs bs.length :=
  (nil_right bs).symm

/-- An item that both lists begin with is kept. -/
theorem keep (h : IsDistance as bs n) : IsDistance (a :: as) (a :: bs) n := by
  refine ⟨h.edits.keep a, ?_⟩
  rintro _ (_ | ⟨_, hkeep⟩ | ⟨_, _, hreplace⟩ | ⟨_, hinsert⟩ | ⟨_, hdelete⟩)
  · exact h.le _ hkeep
  · exact (h.le _ hreplace).trans (Nat.le_succ _)
  · obtain ⟨k, hk, hedits⟩ := hinsert.of_cons
    exact (h.le k hedits).trans hk
  · obtain ⟨k, hk, hedits⟩ := hdelete.symm.of_cons
    exact (h.le k hedits.symm).trans hk

/-- Where the first items differ, the cheapest of three edits comes first. -/
theorem change
    (hne : a ≠ b) (hdiagonal : IsDistance as bs diagonal)
    (habove : IsDistance as (b :: bs) above) (hleft : IsDistance (a :: as) bs left) :
    IsDistance (a :: as) (b :: bs) (min diagonal (min above left) + 1) := by
  constructor
  · rcases min_choice diagonal (min above left) with hmin | hmin
    · rw [hmin]
      exact hdiagonal.edits.replace a b
    · rw [hmin]
      rcases min_choice above left with hmin' | hmin'
      · rw [hmin']
        exact habove.edits.delete a
      · rw [hmin']
        exact hleft.edits.insert b
  · rintro _ (_ | ⟨_, hkeep⟩ | ⟨_, _, hreplace⟩ | ⟨_, hinsert⟩ | ⟨_, hdelete⟩)
    · exact absurd rfl hne
    · have := hdiagonal.le _ hreplace
      omega
    · have := hleft.le _ hinsert
      omega
    · have := habove.le _ hdelete
      omega

theorem of_reverse (h : IsDistance as.reverse bs.reverse n) : IsDistance as bs n :=
  ⟨Edits.reverse_iff.mp h.edits, fun k hk => h.le k hk.reverse⟩

end IsDistance

/-! ## Rows -/

/-- The row holds the distances of a list to a second one and to all lists that are reached when
items are put before the second one. -/
inductive IsRow (as : List α) : List α → List α → List Nat → Prop
  | last {bs : List α} {n : Nat} : IsDistance as bs n → IsRow as bs [] [n]
  | cons {bs : List α} {b : α} {rest : List α} {n : Nat} {row : List Nat} :
      IsDistance as bs n → IsRow as (b :: bs) rest row → IsRow as bs (b :: rest) (n :: row)

section Rows

variable {rest : List α} {row : List Nat} {diagonal left : Nat}

theorem IsRow.exists_cons (h : IsRow as bs rest row) :
    ∃ n row', row = n :: row' ∧ IsDistance as bs n := by
  cases h with
  | last h => exact ⟨_, _, rfl, h⟩
  | cons h _ => exact ⟨_, _, rfl, h⟩

theorem IsRow.getLastD (h : IsRow as bs rest row) :
    IsDistance as (rest.reverse ++ bs) (row.getLastD 0) := by
  induction h with
  | last h => exact h
  | cons h htail ih =>
      obtain ⟨n, row', rfl, -⟩ := htail.exists_cons
      rw [List.reverse_cons, List.append_assoc]
      exact ih

/-- The row of the empty list counts the items. -/
theorem isRow_range (bs rest : List α) :
    IsRow [] bs rest (List.range' bs.length (rest.length + 1)) := by
  induction rest generalizing bs with
  | nil => exact .last (.nil_left bs)
  | cons b rest ih => exact .cons (.nil_left bs) (ih (b :: bs))

variable [DecidableEq α]

theorem isRow_nextDistances
    (hrow : IsRow as bs rest (diagonal :: row)) (hleft : IsDistance (a :: as) bs left) :
    IsRow (a :: as) bs rest (left :: nextDistances a diagonal left rest row) := by
  induction rest generalizing bs row diagonal left with
  | nil =>
      cases hrow
      exact .last hleft
  | cons b rest ih =>
      obtain ⟨hdiagonal, htail⟩ : IsDistance as bs diagonal ∧ IsRow as (b :: bs) rest row := by
        cases hrow with
        | cons hdiagonal htail => exact ⟨hdiagonal, htail⟩
      obtain ⟨above, row, rfl, habove⟩ := htail.exists_cons
      refine .cons hleft (ih htail ?_)
      split
      · next heq =>
          subst heq
          exact hdiagonal.keep
      · next hne => exact hdiagonal.change hne habove hleft

/-- One more item of the first list leads from its row to the next one. -/
theorem isRow_stepDistances (hrow : IsRow as [] rest row) :
    IsRow (a :: as) [] rest (stepDistances rest row a) := by
  obtain ⟨n, row, rfl, hfirst⟩ := hrow.exists_cons
  obtain rfl := hfirst.unique (.nil_right as)
  exact isRow_nextDistances hrow (.nil_right (a :: as))

/-- The rows of a whole list, which is read from its front. -/
theorem isRow_foldl (hrow : IsRow as' [] rest row) (as : List α) :
    IsRow (as.reverse ++ as') [] rest (as.foldl (stepDistances rest) row) := by
  induction as generalizing as' row with
  | nil => exact hrow
  | cons a as ih =>
      rw [List.reverse_cons, List.append_assoc]
      exact ih (isRow_stepDistances hrow)

end Rows

/-! ## The distance -/

variable [DecidableEq α]

theorem isDistance_editDistance (as bs : List α) : IsDistance as bs (editDistance as bs) := by
  have hfirst := isRow_range [] bs
  rw [List.length_nil, ← List.range_eq_range'] at hfirst
  have hlast := (isRow_foldl hfirst as).getLastD
  rw [List.append_nil, List.append_nil] at hlast
  exact hlast.of_reverse

theorem editDistance_comm (as bs : List α) : editDistance as bs = editDistance bs as :=
  (isDistance_editDistance as bs).unique (isDistance_editDistance bs as).symm

theorem editDistance_le_max (as bs : List α) :
    editDistance as bs ≤ max as.length bs.length := by
  obtain ⟨n, hn, hedits⟩ := Edits.le_max as bs
  exact ((isDistance_editDistance as bs).le n hedits).trans hn

end Repricing

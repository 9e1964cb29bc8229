/-!
# Stable sorting

Items that rank alike keep their order. The recursions run on lengths alone, so that the sorting of a
given list can be worked out inside a proof; what is known of `List.mergeSort` holds here by
`stableSort_eq_mergeSort`.
-/

namespace Repricing

variable {α : Type}

/-- Merges two lists. Of items that rank alike, those of the first list come first. -/
def mergeRuns (le : α → α → Bool) : List α → List α → List α
  | [], ys => ys
  | x :: xs, [] => x :: xs
  | x :: xs, y :: ys =>
    if le x y then x :: mergeRuns le xs (y :: ys) else y :: mergeRuns le (x :: xs) ys
termination_by xs ys => xs.length + ys.length

theorem mergeRuns_eq_merge (le : α → α → Bool) (xs ys : List α) :
    mergeRuns le xs ys = xs.merge ys le := by
  fun_induction mergeRuns le xs ys with
  | case1 ys => simp
  | case2 x xs => simp
  | case3 x xs y ys h ih => rw [ih, List.cons_merge_cons, if_pos h]
  | case4 x xs y ys h ih => rw [ih, List.cons_merge_cons, if_neg h]

/-- The items in ascending order. -/
def stableSort (le : α → α → Bool) (xs : List α) : List α :=
  if 2 ≤ xs.length then
    let half := (xs.length + 1) / 2
    mergeRuns le (stableSort le (xs.take half)) (stableSort le (xs.drop half))
  else xs
termination_by xs.length
decreasing_by all_goals grind

theorem stableSort_eq_mergeSort (le : α → α → Bool) (xs : List α) :
    stableSort le xs = xs.mergeSort le := by
  fun_induction stableSort le xs with
  | case1 xs h half ih₁ ih₂ =>
    rcases xs with _ | ⟨a, _ | ⟨b, rest⟩⟩
    · simp at h
    · simp at h
    · rw [List.mergeSort, mergeRuns_eq_merge, ih₁, ih₂]
      simp [List.MergeSort.Internal.splitInTwo, half]
  | case2 xs h =>
    rcases xs with _ | ⟨a, _ | ⟨b, rest⟩⟩
    · simp
    · simp
    · simp at h

theorem stableSort_perm (le : α → α → Bool) (xs : List α) : (stableSort le xs).Perm xs := by
  rw [stableSort_eq_mergeSort]
  exact List.mergeSort_perm xs le

end Repricing

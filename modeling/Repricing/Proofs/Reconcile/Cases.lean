import Repricing.Proofs.Matching.Refresh

/-!
# What a reconciliation can do

A reconciliation rejects the item, leaves it to a person, or takes its price over; only the last
touches the catalog, and it does what an offer of the price does.  The prices that candidates
carry are of no account, and amounts in the catalog show in the prices of a decision only.
-/

namespace Repricing

open ReconcilePolicy (refresh)

variable {c d : Catalog} {policy : ReconcilePolicy} {commit : Bool} {item : Item}

namespace Catalog

theorem exists_get?_of_applyPrice
    {id : CatalogId} {new : Money} {epsilon : Float} {update : PriceUpdate} {after : Catalog}
    (hoffer : c.applyPrice id new epsilon commit = .ok (update, after)) :
    ∃ current, after.get? id = some current := by
  obtain ⟨slot, old, hslot, -, -, -, -⟩ := applyPrice_eq_ok_iff.mp hoffer
  have hentries := (alike_of_applyPrice hoffer).entries_eq
  obtain ⟨current, hcurrent⟩ := exists_currentEntryAt? (slotOf_congr hentries id ▸ hslot)
  exact ⟨current, get?_eq_some_iff.mpr ⟨slot, slotOf_congr hentries id ▸ hslot, hcurrent⟩⟩

end Catalog

namespace ReconcilePolicy

/-! ## Taking a price over -/

theorem applyTop_of_ok
    {top : Candidate} {ranked : List Candidate} {update : PriceUpdate} {after : Catalog}
    {current : CatalogEntry}
    (hoffer : c.applyPrice top.entry.id item.price (policy.epsilonFor item.price.currency) commit =
      .ok (update, after))
    (hcurrent : after.get? top.entry.id = some current) :
    policy.applyTop commit item top ranked c =
      (.autoApplied current update.old update.new top.confidence update.changed update.applied,
        after) := by
  simp [applyTop, hoffer, hcurrent]

theorem applyTop_of_unknown
    {top : Candidate} {ranked : List Candidate}
    (hoffer : c.applyPrice top.entry.id item.price (policy.epsilonFor item.price.currency) commit =
      .error .notFound) :
    policy.applyTop commit item top ranked c = (.rejected .noMatch (some top.confidence), c) := by
  simp [applyTop, hoffer]

theorem applyTop_of_refused
    {top : Candidate} {ranked : List Candidate} {e : EngineError}
    (hoffer : c.applyPrice top.entry.id item.price (policy.epsilonFor item.price.currency) commit =
      .error e)
    (hne : e ≠ .notFound) :
    policy.applyTop commit item top ranked c =
      (policy.pending item .currencyMismatch ranked c, c) := by
  cases e <;> simp_all [applyTop]

/-- The three ways in which a reconciliation ends. -/
theorem reconcile_cases
    (policy : ReconcilePolicy) (commit : Bool) (item : Item) (candidates : List Candidate)
    (c : Catalog) :
    (∃ reason best,
      policy.reconcile commit item candidates c = (.rejected reason best, c)) ∨
    (∃ reason,
      policy.reconcile commit item candidates c =
        (policy.pending item reason (rank candidates) c, c)) ∨
    (∃ top ∈ candidates, ∃ update after current,
      c.applyPrice top.entry.id item.price (policy.epsilonFor item.price.currency) commit =
        .ok (update, after) ∧
      after.get? top.entry.id = some current ∧
      policy.reconcile commit item candidates c =
        (.autoApplied current update.old update.new top.confidence update.changed update.applied,
          after)) := by
  unfold reconcile
  cases hranked : rank candidates with
  | nil => exact Or.inl ⟨_, _, rfl⟩
  | cons top others =>
      have htop : top ∈ candidates := by
        rw [← mem_rank, hranked]
        exact List.mem_cons_self
      simp only [decideRanked]
      split
      · exact Or.inl ⟨_, _, rfl⟩
      split
      · exact Or.inr (Or.inl ⟨_, rfl⟩)
      split
      · exact Or.inr (Or.inl ⟨_, rfl⟩)
      cases hoffer : c.applyPrice top.entry.id item.price
          (policy.epsilonFor item.price.currency) commit with
      | ok answer =>
          obtain ⟨update, after⟩ := answer
          obtain ⟨current, hcurrent⟩ := Catalog.exists_get?_of_applyPrice hoffer
          exact Or.inr (Or.inr ⟨top, htop, update, after, current, hoffer, hcurrent,
            applyTop_of_ok hoffer hcurrent⟩)
      | error e =>
          by_cases hunknown : e = .notFound
          · subst hunknown
            exact Or.inl ⟨_, _, applyTop_of_unknown hoffer⟩
          · exact Or.inr (Or.inl ⟨_, applyTop_of_refused hoffer hunknown⟩)

/-! ## Stale candidates -/

theorem isAmbiguous_map_refresh
    (policy : ReconcilePolicy) (confidence : Float) (second : Option Candidate) (c : Catalog) :
    policy.isAmbiguous confidence (second.map (refresh c)) =
      policy.isAmbiguous confidence second := by
  cases second <;> rfl

theorem pending_map_refresh
    (policy : ReconcilePolicy) (item : Item) (reason : ReviewReason)
    (candidates : List Candidate) (c : Catalog) :
    policy.pending item reason (candidates.map (refresh c)) c =
      policy.pending item reason candidates c := by
  have hshown :
      ((candidates.map (refresh c)).filter fun x => policy.reviewMin ≤ x.confidence).map
          (refresh c) =
        (candidates.filter fun x => policy.reviewMin ≤ x.confidence).map (refresh c) := by
    rw [List.filter_map, List.map_map]
    exact List.map_congr_left fun candidate _ => refresh_refresh c candidate
  simp only [pending, hshown]

theorem applyTop_refresh
    (policy : ReconcilePolicy) (commit : Bool) (item : Item) (top : Candidate)
    (ranked : List Candidate) (c : Catalog) :
    policy.applyTop commit item (refresh c top) (ranked.map (refresh c)) c =
      policy.applyTop commit item top ranked c := by
  have hid := id_refresh c top
  cases hoffer : c.applyPrice top.entry.id item.price
      (policy.epsilonFor item.price.currency) commit with
  | ok answer =>
      obtain ⟨update, after⟩ := answer
      obtain ⟨current, hcurrent⟩ := Catalog.exists_get?_of_applyPrice hoffer
      rw [applyTop_of_ok hoffer hcurrent,
        applyTop_of_ok (hid.symm ▸ hoffer) (hid.symm ▸ hcurrent), confidence_refresh]
  | error e =>
      by_cases hunknown : e = .notFound
      · subst hunknown
        rw [applyTop_of_unknown hoffer, applyTop_of_unknown (hid.symm ▸ hoffer),
          confidence_refresh]
      · rw [applyTop_of_refused hoffer hunknown,
          applyTop_of_refused (hid.symm ▸ hoffer) hunknown, pending_map_refresh]

/-- Candidates read at an earlier state of the prices lead to the decision that fresh ones lead
to. -/
theorem reconcile_map_refresh
    (policy : ReconcilePolicy) (commit : Bool) (item : Item) (candidates : List Candidate)
    (c : Catalog) :
    policy.reconcile commit item (candidates.map (refresh c)) c =
      policy.reconcile commit item candidates c := by
  unfold reconcile
  rw [rank_map_refresh]
  cases rank candidates with
  | nil => rfl
  | cons top others =>
      have hpending := fun reason =>
        pending_map_refresh policy item reason (top :: others) c
      have happly := applyTop_refresh policy commit item top (top :: others) c
      rw [List.map_cons] at hpending happly ⊢
      simp only [decideRanked, List.head?_map, isAmbiguous_map_refresh, confidence_refresh,
        hpending, happly]

end ReconcilePolicy

end Repricing

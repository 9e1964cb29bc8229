import Repricing.Proofs.Matching.BitRanking
import Repricing.Proofs.Reconcile.Verdict

/-!
# The order in which candidates come

A decision looks at candidates in their ranking only.  Since the ranking does not depend on the order
in which they come, unless two of them have the same confidence and identifier, neither does the
decision, nor the price that it writes.
-/

namespace Repricing

namespace ReconcilePolicy

/-- Decides about an item with candidates whose confidences are given by their bits. -/
def reconcileBits (policy : ReconcilePolicy) (commit : Bool) (item : Item)
    (candidates : List BitCandidate) (catalog : Catalog) : Decision × Catalog :=
  policy.decideRanked commit item catalog
    ((BitCandidate.rank candidates).map BitCandidate.candidate)

/-- Decisions are about the bits of confidences. -/
theorem reconcile_eq_reconcileBits
    (policy : ReconcilePolicy) (commit : Bool) (item : Item) (candidates : List Candidate)
    (catalog : Catalog) :
    policy.reconcile commit item candidates catalog =
      policy.reconcileBits commit item (candidates.map Candidate.bitwise) catalog := by
  rw [reconcile, reconcileBits, rank_eq_rank_bitwise]

/-- The order of candidates with different keys makes no difference to what is decided and
written. -/
def IgnoresOrder {α β : Type} (key : α → β)
    (decision : ReconcilePolicy → Bool → Item → List α → Catalog → Decision × Catalog) : Prop :=
  ∀ candidates others, candidates.Perm others → (candidates.map key).Nodup →
    ∀ policy commit item catalog,
      decision policy commit item others catalog = decision policy commit item candidates catalog

theorem ignoresOrder_reconcileBits :
    IgnoresOrder (fun c : BitCandidate => (c.confidenceBits, c.entry.id)) reconcileBits := by
  intro candidates others hperm hdistinct policy commit item catalog
  have hplaces : (candidates.map fun c => (place c.confidenceBits, c.entry.id)).Nodup := by
    have hmap := hdistinct.map (place_injective.prodMap Function.injective_id)
    rwa [List.map_map] at hmap
  rw [reconcileBits, reconcileBits, BitCandidate.ranks_rank.eq_of_perm hperm hplaces]

theorem ignoresOrder_reconcile :
    IgnoresOrder (fun c : Candidate => (c.confidence, c.entry.id)) reconcile := by
  intro candidates others hperm hdistinct policy commit item catalog
  rw [reconcile_eq_reconcileBits, reconcile_eq_reconcileBits]
  apply ignoresOrder_reconcileBits _ _ (hperm.map _)
  have htoBits : Function.Injective Float.toBits := fun _ _ => Float.toBits_inj.mp
  have hmap := hdistinct.map (htoBits.prodMap Function.injective_id)
  rwa [List.map_map] at hmap ⊢

/-- Candidates are ranked by the total order of doubles, in which all that are no numbers have their
places, and then by their identifiers.  As long as no two candidates have the same confidence and
identifier, the order in which they come shows neither in the decision nor in the catalog after
it. -/
theorem reconcile_anyOrder :
    IsTotalOrder place ∧
    Ranks (fun c => place c.confidenceBits) (·.entry.id) BitCandidate.rank ∧
    IgnoresOrder (fun c : BitCandidate => (c.confidenceBits, c.entry.id)) reconcileBits ∧
    IgnoresOrder (fun c : Candidate => (c.confidence, c.entry.id)) reconcile ∧
    ∀ candidates : List Candidate,
      rank candidates =
        (BitCandidate.rank (candidates.map Candidate.bitwise)).map BitCandidate.candidate ∧
      ∀ (policy : ReconcilePolicy) (commit : Bool) (item : Item) (catalog : Catalog),
        policy.reconcile commit item candidates catalog =
          policy.reconcileBits commit item (candidates.map Candidate.bitwise) catalog := by
  refine ⟨isTotalOrder_place, BitCandidate.ranks_rank, ignoresOrder_reconcileBits,
    ignoresOrder_reconcile, ?_⟩
  intro candidates
  refine ⟨rank_eq_rank_bitwise candidates, ?_⟩
  intro policy commit item catalog
  exact policy.reconcile_eq_reconcileBits commit item candidates catalog

/-- Candidates of which two have confidences that are no numbers, one with the sign. -/
def oddCandidates : List BitCandidate :=
  [⟨edition 1 750.0, 0xFFF8000000000000, {}⟩,
   ⟨edition 2 900.0, (0.95 : Float).toBits, {}⟩,
   ⟨edition 1 750.0, 0x7FF8000000000000, {}⟩]

/-- What is no number is ranked first without the sign and last with it, and so the offer is taken
for the same edition in whatever order the candidates come. -/
theorem reconcile_anyOrder_editions :
    (BitCandidate.rank oddCandidates).map (·.confidenceBits) =
        [0x7FF8000000000000, (0.95 : Float).toBits, 0xFFF8000000000000] ∧
      reconcileBits {} true editionOffer oddCandidates.reverse editions =
        reconcileBits {} true editionOffer oddCandidates editions := by
  obtain ⟨-, -, hbits, -⟩ := reconcile_anyOrder
  refine ⟨by decide +kernel, ?_⟩
  exact hbits _ _ (List.reverse_perm _).symm (by decide +kernel) {} true editionOffer editions

end ReconcilePolicy

end Repricing

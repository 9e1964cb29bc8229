import Repricing.Matching.Index
import Repricing.Proofs.Catalog.Snapshot

/-!
# The states of an index

An index is built from a snapshot, and from then on only offers of prices change it.  In every
state it reaches it is the index of its entries, there is at least one entry, and each price is in
the currency that its entry had in the snapshot.
-/

namespace Repricing

namespace CandidateIndex

/-- The states that an index reaches through offers of prices. -/
inductive Reachable : CandidateIndex → Prop
  | built {entries : List CatalogEntry} {topK : UInt64} {index : CandidateIndex}
      (hbuild : build entries topK = .ok index) : Reachable index
  | offered {index : CandidateIndex} {id : CatalogId} {new : Money} {epsilon : Float}
      {commit : Bool} {update : PriceUpdate} {after : Catalog} (hindex : Reachable index)
      (hoffer : index.catalog.applyPrice id new epsilon commit = .ok (update, after)) :
      Reachable { index with catalog := after }

theorem build_eq_ok_iff
    {entries : List CatalogEntry} {topK : UInt64} {index : CandidateIndex} :
    build entries topK = .ok index ↔
      topK ≠ 0 ∧ ∃ catalog, Catalog.ofEntries entries = .ok catalog ∧
        catalog.isEmpty = false ∧ ofCatalog catalog topK = index := by
  unfold build
  by_cases htop : topK = 0
  · simp [htop]
  · cases Catalog.ofEntries entries with
    | error e => simp [htop]
    | ok catalog => cases hempty : catalog.isEmpty <;> simp [htop, hempty]

variable {index : CandidateIndex}

theorem Reachable.isEmpty_eq_false (hindex : index.Reachable) : index.isEmpty = false := by
  induction hindex with
  | built hbuild =>
      obtain ⟨-, catalog, -, hempty, rfl⟩ := build_eq_ok_iff.mp hbuild
      exact hempty
  | offered _ hoffer ih =>
      rw [CandidateIndex.isEmpty, Catalog.isEmpty] at ih ⊢
      rw [(Catalog.alike_of_applyPrice hoffer).entries_eq, ih]

theorem Reachable.inSnapshotCurrency (hindex : index.Reachable) :
    index.catalog.InSnapshotCurrency := by
  induction hindex with
  | built hbuild =>
      obtain ⟨-, catalog, hcatalog, -, rfl⟩ := build_eq_ok_iff.mp hbuild
      exact Catalog.inSnapshotCurrency_of_ofEntries hcatalog
  | offered _ hoffer ih => exact (Catalog.alike_of_applyPrice hoffer).inSnapshotCurrency ih

theorem Reachable.keys_eq (hindex : index.Reachable) :
    index.keys = index.catalog.entries.map MatchKeys.ofEntry := by
  induction hindex with
  | built hbuild =>
      obtain ⟨-, catalog, -, -, rfl⟩ := build_eq_ok_iff.mp hbuild
      rfl
  | offered _ hoffer ih =>
      rw [(Catalog.alike_of_applyPrice hoffer).entries_eq]
      exact ih

theorem Reachable.postings_eq (hindex : index.Reachable) :
    index.postings = Postings.ofKeys index.keys.toList := by
  induction hindex with
  | built hbuild =>
      obtain ⟨-, catalog, -, -, rfl⟩ := build_eq_ok_iff.mp hbuild
      rfl
  | offered _ _ ih => exact ih

end CandidateIndex

end Repricing

import Repricing.Proofs.Import.Accounting
import Repricing.Proofs.Import.Decisions
import Repricing.Proofs.Import.RowIndependence
import Repricing.Proofs.Matching.Ranking

/-!
# Outcomes are well formed

Every outcome of a run fits the row, the policy and the prices of its moment: confidences lie on
the side of the thresholds that the decision says, candidates are in their ranking and show current
prices, and what is rejected for want of a match has no candidate at all.
-/

namespace Repricing

/-! ## Well-formed decisions -/

/-- What holds of an item that was taken for an entry. -/
structure WellApplied (policy : ReconcilePolicy) (item : Item) (before after : Catalog)
    (entry : CatalogEntry) (old new : Money) (confidence : Float) (applied : Bool) : Prop where
  confident : policy.autoApplyMin ≤ confidence
  confidence_le_one : confidence ≤ 1.0
  currency : item.price.currency = entry.price.currency
  new_eq : new = item.price
  old_eq : before.currentPrice entry.id = .ok old
  /-- The entry is shown as it stands after the decision. -/
  current : after.get? entry.id = some entry
  price_eq : entry.price = if applied then new else old

/-- What holds of an item that is left to a person. -/
structure WellReviewed (policy : ReconcilePolicy) (item : Item) (before : Catalog)
    (reason : ReviewReason) (candidates : List Candidate) (confidence : Float)
    (proposed : Money) : Prop where
  first : ∃ top others, candidates = top :: others ∧ confidence = top.confidence ∧
    (reason = .currencyMismatch → item.price.currency ≠ top.entry.price.currency)
  distinct : (candidates.map (·.entry.id)).Nodup
  ranked : candidates.Pairwise Candidate.RanksAbove
  confident : ∀ candidate ∈ candidates,
    policy.reviewMin ≤ candidate.confidence ∧ candidate.confidence ≤ 1.0
  /-- The candidates show their entries as they stand. -/
  current : ∀ candidate ∈ candidates, before.get? candidate.entry.id = some candidate.entry
  proposed_eq : proposed = item.price
  ambiguous : reason = .ambiguous → 2 ≤ candidates.length
  lowConfidence : reason = .lowConfidence → confidence < policy.autoApplyMin
  currencyMismatch : reason = .currencyMismatch → policy.autoApplyMin ≤ confidence

/-- What holds of the decision about an item, given its ranked candidates. -/
def Decision.WellFormed (policy : ImportPolicy) (item : Item) (ranked : List Candidate)
    (before after : Catalog) : Decision → Prop
  | .autoApplied entry old new confidence _ applied =>
    WellApplied policy.reconcile item before after entry old new confidence applied
  | .pendingReview reason candidates confidence proposed =>
    WellReviewed policy.reconcile item before reason candidates confidence proposed
  | .rejected .noMatch best => best = none ∧ ranked = []
  | .rejected .belowThreshold best => ∃ top others, ranked = top :: others ∧
      best = some top.confidence ∧
      policy.matching.threshold ≤ top.confidence ∧
      top.confidence < policy.reconcile.reviewMin

/-- What holds of the outcome of a row. -/
def Outcome.WellFormed (run : Run) (raw : RawRow) (before after : Catalog) : Outcome → Prop
  | .failed error =>
    KeyedItem.ofRow raw run.policy.options.defaultCurrency = .error error
  | .decided record => ∃ keyed,
    KeyedItem.ofRow raw run.policy.options.defaultCurrency = .ok keyed ∧
    record.row = raw.row ∧ record.item = keyed.item ∧
    record.decision.WellFormed run.policy record.item (run.candidatesFor before keyed) before after

/-! ## Candidates under a policy that makes sense -/

theorem ImportPolicy.threshold_le_one
    {policy : ImportPolicy} (hvalid : policy.validate = .ok ()) :
    policy.matching.threshold ≤ 1.0 := by
  unfold validate MatchSettings.validate at hvalid
  cases hthreshold : checkUnit .threshold policy.matching.threshold with
  | error e => simp [hthreshold, bind, Except.bind] at hvalid
  | ok => exact (isUnit_of_checkUnit hthreshold).2

/-- A confidence that is not below a bound reaches it. -/
theorem RankedCandidates.reaches
    {threshold bound : Float} {c : Catalog} {top : Candidate} {others : List Candidate}
    (hranked : RankedCandidates threshold c (top :: others)) (hbound : bound ≤ 1.0)
    (hnot : ¬ top.confidence < bound) :
    bound ≤ top.confidence := by
  obtain ⟨-, hone, -⟩ := hranked.confidence top List.mem_cons_self
  exact le_of_not_lt_of_le hone hbound hnot

theorem Run.rankedCandidates_candidatesFor
    {run : Run} (hvalid : run.policy.validate = .ok ()) (c : Catalog) (keyed : KeyedItem) :
    RankedCandidates run.policy.matching.threshold c (run.candidatesFor c keyed) := by
  apply rankedCandidates_rank
  · intro candidate hmem
    exact CandidateIndex.confidence_of_mem_matchKeys (ImportPolicy.threshold_le_one hvalid) hmem
  · exact CandidateIndex.pairwise_ids_matchKeys (run.indexAt c) run.policy.matching keyed.keys _
  · intro candidate hmem
    exact CandidateIndex.get?_of_mem_matchKeys (run.indexAt c) hmem

/-! ## Decisions are well formed -/

variable {policy : ImportPolicy} {commit : Bool} {item : Item} {c after : Catalog}
  {ranked : List Candidate} {threshold : Float}

/-- An offer in the currency of its entry leaves this entry with the new price or the old one. -/
theorem wellApplied_of_applyPrice
    {policy : ReconcilePolicy} {top : Candidate} {update : PriceUpdate} {current : CatalogEntry}
    (hhigh : policy.autoApplyMin ≤ top.confidence) (hone : top.confidence ≤ 1.0)
    (hcurrency : item.price.currency = top.entry.price.currency)
    (hoffer : c.applyPrice top.entry.id item.price
      (policy.epsilonFor item.price.currency) commit = .ok (update, after))
    (hold : update.old = top.entry.price) (hcurrent : after.get? top.entry.id = some current) :
    WellApplied policy item c after current update.old update.new top.confidence
      update.applied := by
  have hid := Catalog.id_of_get? hcurrent
  have hnew := Catalog.new_of_applyPrice hoffer
  have hprice : current.price = if update.applied then update.new else update.old := by
    have hafter := Catalog.currentPrice_after_applyPrice hoffer
    rw [Catalog.currentPrice_of_get? hcurrent, ← hnew] at hafter
    exact Except.ok.inj hafter
  refine
    { confident := hhigh
      confidence_le_one := hone
      currency := ?_
      new_eq := hnew
      old_eq := hid ▸ Catalog.currentPrice_of_applyPrice hoffer
      current := hid ▸ hcurrent
      price_eq := hprice }
  rw [hprice]
  split
  · rw [hnew]
  · rw [hold, hcurrency]

/-- The candidates that reach the review threshold are shown to a person in their ranking. -/
theorem wellReviewed_of_ranked
    {policy : ReconcilePolicy} {reason : ReviewReason} {top : Candidate} {others : List Candidate}
    (hranked : RankedCandidates threshold c (top :: others))
    (hreview : policy.reviewMin ≤ top.confidence)
    (hambiguous : reason = .ambiguous →
      ∃ second ∈ others, policy.reviewMin ≤ second.confidence)
    (hlow : reason = .lowConfidence → top.confidence < policy.autoApplyMin)
    (hcurrency : reason = .currencyMismatch → policy.autoApplyMin ≤ top.confidence ∧
      item.price.currency ≠ top.entry.price.currency) :
    WellReviewed policy item c reason
      (top :: others.filter fun candidate => policy.reviewMin ≤ candidate.confidence)
      top.confidence item.price := by
  have hshown : (top :: others.filter fun candidate =>
      policy.reviewMin ≤ candidate.confidence).Sublist (top :: others) :=
    List.filter_sublist.cons_cons top
  have hreached : ∀ candidate ∈ top :: others.filter fun candidate =>
      policy.reviewMin ≤ candidate.confidence, policy.reviewMin ≤ candidate.confidence := by
    intro candidate hmem
    rcases List.mem_cons.mp hmem with rfl | hother
    · exact hreview
    · exact of_decide_eq_true (List.mem_filter.mp hother).2
  constructor
  · exact ⟨top, _, rfl, rfl, fun hreason => (hcurrency hreason).2⟩
  · exact List.pairwise_map.mpr (hranked.distinct.sublist hshown)
  · exact hranked.above.sublist hshown
  · intro candidate hmem
    exact ⟨hreached candidate hmem, (hranked.confidence candidate (hshown.subset hmem)).2.1⟩
  · intro candidate hmem
    exact hranked.current candidate (hshown.subset hmem)
  · rfl
  · intro hreason
    obtain ⟨second, hsecond, hworth⟩ := hambiguous hreason
    have hkept : second ∈ others.filter fun candidate =>
        policy.reviewMin ≤ candidate.confidence :=
      List.mem_filter.mpr ⟨hsecond, decide_eq_true hworth⟩
    exact Nat.succ_le_succ (List.length_pos_of_mem hkept)
  · exact hlow
  · intro hreason
    exact (hcurrency hreason).1

/-- Whatever the decision is, it is well formed. -/
theorem wellFormed_of_decides
    {decision : Decision} (hvalid : policy.validate = .ok ())
    (hranked : RankedCandidates policy.matching.threshold c ranked)
    (hdecides : policy.reconcile.Decides commit item c ranked decision after) :
    decision.WellFormed policy item ranked c after := by
  obtain ⟨⟨-, happly⟩, ⟨-, hreview⟩, -⟩ := ImportPolicy.sensible_of_valid hvalid
  cases hdecides with
  | noMatch => exact ⟨rfl, rfl⟩
  | belowThreshold hbelow =>
      obtain ⟨-, -, hthreshold⟩ := hranked.confidence _ List.mem_cons_self
      exact ⟨_, _, rfl, rfl, hthreshold, hbelow⟩
  | ambiguous hnot hsecond =>
      have htop := hranked.reaches hreview hnot
      rw [policy.reconcile.pending_of_known item .ambiguous hranked.current htop]
      exact wellReviewed_of_ranked hranked htop
        (fun _ => ⟨_, List.mem_cons_self, hsecond⟩) nofun nofun
  | lowConfidence hnot hlow =>
      have htop := hranked.reaches hreview hnot
      rw [policy.reconcile.pending_of_known item .lowConfidence hranked.current htop]
      exact wellReviewed_of_ranked hranked htop nofun (fun _ => hlow) nofun
  | currencyMismatch hnot hhigh hcurrency =>
      have htop := hranked.reaches hreview hnot
      rw [policy.reconcile.pending_of_known item .currencyMismatch hranked.current htop]
      exact wellReviewed_of_ranked hranked htop nofun nofun
        fun _ => ⟨hranked.reaches happly hhigh, hcurrency⟩
  | autoApplied hhigh hcurrency hoffer hold hcurrent =>
      obtain ⟨-, hone, -⟩ := hranked.confidence _ List.mem_cons_self
      exact wellApplied_of_applyPrice (hranked.reaches happly hhigh) hone hcurrency hoffer hold
        hcurrent

namespace Run

/-- Whatever comes of a row is well formed, at whatever prices. -/
theorem wellFormed_handle
    (run : Run) (hvalid : run.policy.validate = .ok ()) (c : Catalog) (raw : RawRow) :
    (run.handle c raw).1.WellFormed run raw c (run.handle c raw).2 := by
  cases hrow : KeyedItem.ofRow raw run.policy.options.defaultCurrency with
  | error error =>
      rw [handle_of_error hrow]
      exact hrow
  | ok keyed =>
      obtain ⟨decision, after, hhandle, hdecides⟩ := exists_decides (c := c) hrow
      rw [hhandle]
      exact ⟨keyed, hrow, KeyedItem.row_ofRow hrow, rfl,
        wellFormed_of_decides hvalid (rankedCandidates_candidatesFor hvalid c keyed) hdecides⟩

end Run

/-! ## Runs -/

namespace CandidateIndex

variable {index : CandidateIndex} {cores : UInt64}

/-- Every outcome of a run is well formed, at the prices before and after its row. -/
theorem importBatch_wellFormed
    (hindex : index.Reachable) (haccepted : policy.Accepted cores)
    (cancellation : Cancellation) (rows : List RawRow) :
    let run : Run := ⟨index, policy⟩
    let taken := dispatched policy cores cancellation rows
    let outcomes := (index.progress policy cores cancellation rows).outcomes
    ∃ report after,
      index.importBatch policy cores cancellation rows = .ok (report, after) ∧
      report.Lists outcomes ∧
      outcomes.length = taken.length ∧
      (cancellation = .never → taken = rows) ∧
      ∀ (i : Nat) (raw : RawRow), taken[i]? = some raw → ∃ outcome,
        outcomes[i]? = some outcome ∧
        outcome.WellFormed run raw (run.catalogAfter index.catalog (taken.take i))
          (run.catalogAfter index.catalog (taken.take (i + 1))) := by
  intro run taken outcomes
  refine ⟨_, _, importBatch_of_valid hindex.isEmpty_eq_false haccepted.valid,
    ImportReport.lists_tally _ _ _, ?_, ?_, ?_⟩
  · exact (congrArg List.length outcomes_progress).trans (run.length_handleAll index.catalog taken)
  · rintro rfl
    exact dispatched_never haccepted
  · intro i raw htaken
    let before := run.catalogAfter index.catalog (taken.take i)
    have hformed : (run.handle before raw).1.WellFormed run raw before (run.handle before raw).2 :=
      run.wellFormed_handle haccepted.valid before raw
    rw [← run.catalogAfter_take_succ index.catalog htaken] at hformed
    exact ⟨_, getElem?_outcomes_progress index htaken, hformed⟩

/-- The offer in another currency is left to a person, with the price that the row before it has
set. -/
theorem importBatch_wellFormed_sample :
    ∃ index record reason candidates confidence proposed,
      build sampleEntries 20 = .ok index ∧
      (index.progress {} 4 .never sampleRows).outcomes[2]? = some (.decided record) ∧
      record.decision = .pendingReview reason candidates confidence proposed ∧
      WellReviewed {} record.item
        (Run.catalogAfter ⟨index, {}⟩ index.catalog (sampleRows.take 2))
        reason candidates confidence proposed := by
  obtain ⟨index, hbuild⟩ := exists_build_sampleEntries
  have haccepted : ({} : ImportPolicy).Accepted 4 := ⟨rfl, by decide, by decide⟩
  obtain ⟨report, after, -, -, -, htaken, hrows⟩ :=
    importBatch_wellFormed (.built hbuild) haccepted .never sampleRows
  rw [htaken rfl] at hrows
  obtain ⟨outcome, houtcome, hformed⟩ := hrows 2 _ rfl
  have hkinds : ((build sampleEntries 20).map fun index =>
      (index.progress {} 4 .never sampleRows).outcomes.map (·.hasKind .pendingReview)) =
        .ok [false, false, true, false] := by decide +kernel
  rw [hbuild] at hkinds
  have hkind := congrArg (·[2]?) (Except.ok.inj hkinds)
  dsimp only at hkind
  rw [List.getElem?_map, houtcome] at hkind
  cases outcome with
  | failed error => cases hkind
  | decided record =>
      obtain ⟨keyed, -, -, -, hdecision⟩ := hformed
      cases hcase : record.decision with
      | pendingReview reason candidates confidence proposed =>
          rw [hcase] at hdecision
          exact ⟨index, record, reason, candidates, confidence, proposed, hbuild, houtcome, hcase,
            hdecision⟩
      | autoApplied =>
          simp [Outcome.hasKind, hcase, Decision.kind] at hkind
      | rejected =>
          simp [Outcome.hasKind, hcase, Decision.kind] at hkind

end CandidateIndex

end Repricing

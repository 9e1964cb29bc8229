import Repricing.Proofs.Float.Multiples
import Repricing.Proofs.Import.WellFormed
import Repricing.Proofs.Matching.Retrieval

/-!
# Rivals of an entry that a row is taken for

A row is not taken for an entry while another one that matches about as well is worth a look.  The
reconciler looks at the second candidate only; all the others are farther from the first one.  So
this holds of all entries that share tokens with the row, as far as matching keeps them: it leaves
out those with a score of zero and those below its own threshold.
-/

namespace Repricing

variable {threshold : Float} {c after : Catalog} {top rival : Candidate} {others : List Candidate}

/-! ## What an accepted candidate says about the others -/

namespace RankedCandidates

theorem unit
    (hranked : RankedCandidates threshold c others) {candidate : Candidate}
    (hmem : candidate ∈ others) :
    (0.0 : Float) ≤ candidate.confidence ∧ candidate.confidence ≤ 1.0 := by
  obtain ⟨hpos, hone, -⟩ := hranked.confidence candidate hmem
  exact ⟨le_of_lt hpos, hone⟩

/-- No candidate has a greater confidence than one that is ranked above it. -/
theorem confidence_le
    (hranked : RankedCandidates threshold c (top :: others))
    (hmem : rival ∈ top :: others) :
    rival.confidence ≤ top.confidence := by
  rcases List.mem_cons.mp hmem with rfl | hother
  · exact le_self_of_le (hranked.unit hmem).2
  · rcases List.rel_of_pairwise_cons hranked.above hother with hlt | ⟨heq, -⟩
    · exact le_of_lt hlt
    · rw [← heq]
      exact le_self_of_le (hranked.unit hmem).2

theorem tail (hranked : RankedCandidates threshold c (top :: others)) :
    RankedCandidates threshold c others where
  confidence candidate hmem := hranked.confidence candidate (List.mem_cons_of_mem top hmem)
  distinct := hranked.distinct.of_cons
  above := hranked.above.of_cons
  current candidate hmem := hranked.current candidate (List.mem_cons_of_mem top hmem)

end RankedCandidates

namespace ReconcilePolicy

variable {policy : ReconcilePolicy} {commit : Bool} {item : Item}

/-- If the second candidate is far enough from the first one, then so are all the others. -/
theorem far_of_not_ambiguous
    (hsensible : policy.Sensible)
    (hranked : RankedCandidates threshold c (top :: others))
    (hclear : policy.isAmbiguous top.confidence others.head? = false) (hmem : rival ∈ others)
    (hreview : policy.reviewMin ≤ rival.confidence) :
    ¬ top.confidence - rival.confidence ≤ policy.ambiguityBand := by
  intro hnear
  cases others with
  | nil => cases hmem
  | cons second rest =>
      have hsecond : second ∈ top :: second :: rest := by simp
      have hrivalUnit := hranked.tail.unit hmem
      have hsecondUnit := hranked.unit hsecond
      have htopUnit := hranked.unit List.mem_cons_self
      have hle := hranked.tail.confidence_le hmem
      have hworth : policy.reviewMin ≤ second.confidence :=
        le_trans_of_le hreview hle
      have hclose : top.confidence - second.confidence ≤ policy.ambiguityBand + bandTolerance :=
        sub_le_add_of_sub_le hrivalUnit hsecondUnit htopUnit htopUnit hsensible.ambiguityBand
          (by decide) hle (hranked.confidence_le hsecond) (le_self_of_le htopUnit.2) hnear
      simp [isAmbiguous, hworth, hclose] at hclear

end ReconcilePolicy

/-! ## Rows -/

/-- Of the entries that share tokens with the keys, none but one is a rival of a match with the
given confidence: those that the matcher keeps have no greater score, and are too far below it if
they are worth a look. -/
def ImportPolicy.Unrivalled (policy : ImportPolicy) (c : Catalog) (keys : MatchKeys)
    (id : CatalogId) (confidence : Float) : Prop :=
  ∀ other ∈ c.entries, other.id ≠ id → keys.SharesToken other →
    let score := matchScore policy.matching.weights keys other
    (0.0 : Float) < score → policy.matching.threshold ≤ score →
      score ≤ confidence ∧
      (policy.reconcile.reviewMin ≤ score →
        ¬ confidence - score ≤ policy.reconcile.ambiguityBand)

/-- The ISBN of the row, if it has any, is not in the catalog. -/
def Catalog.LacksIsbnOf (c : Catalog) (raw : RawRow) : Prop :=
  ∀ key, (MatchKeys.ofRow raw).isbn = some key → ¬ c.HasIsbn key

namespace Run

variable {run : Run} {raw : RawRow}

theorem not_hitsIsbn_of_lacksIsbn
    {index : CandidateIndex} (hlacks : index.catalog.LacksIsbnOf raw) :
    ¬ index.HitsIsbn (MatchKeys.ofRow raw) := by
  rintro ⟨key, hkey, hknown⟩
  obtain ⟨isbn, hisbn, hbare⟩ := Option.bind_eq_some_iff.mp hkey
  obtain ⟨text, -, htext⟩ := Option.bind_eq_some_iff.mp hisbn
  rw [bareIsbn?_of_bareIsbn? htext] at hbare
  rw [Option.some.inj hbare] at hisbn
  exact hlacks key hisbn hknown

/-- A row that is taken for an entry is taken for its only candidate within reach. -/
theorem unrivalled_of_handle
    (hindex : (run.indexAt c).Reachable) (hvalid : run.policy.validate = .ok ())
    (hsize : c.size ≤ run.policy.matching.topK.toNat) (hlacks : c.LacksIsbnOf raw)
    {row : UInt64} {item : Item} {entry : CatalogEntry} {old new : Money} {confidence : Float}
    {changed applied : Bool}
    (houtcome : (run.handle c raw).1 =
      .decided ⟨row, item, .autoApplied entry old new confidence changed applied⟩) :
    run.policy.Unrivalled c (MatchKeys.ofRow raw) entry.id confidence := by
  obtain ⟨keyed, top, others, hrow, -, hcandidates, hclear, -, rfl, hid, -, -⟩ :=
    exists_top_of_autoApplied houtcome
  obtain ⟨husable, hkeys, -⟩ := KeyedItem.ofRow_eq_ok_iff.mp hrow
  have hranked := rankedCandidates_candidatesFor hvalid c keyed
  intro other hother hne hshares score hpos hthreshold
  obtain ⟨slot, hslot⟩ := Array.getElem?_of_mem hother
  obtain ⟨price, hprice⟩ := Catalog.exists_priceAt? hslot
  -- The rival is a candidate at its current price.
  obtain ⟨rival, hrival⟩ : ∃ rival, rival =
    scoredMatch run.policy.matching (MatchKeys.ofRow raw) (other.withPrice price) := ⟨_, rfl⟩
  have hfound := CandidateIndex.scoredMatch_mem_matchKeys hindex husable
    (not_hitsIsbn_of_lacksIsbn hlacks) hsize (Catalog.shows_of_entry hslot hprice).get?_eq
    hshares hpos hthreshold
  rw [← hrival] at hfound
  have hmem : rival ∈ run.candidatesFor c keyed := by
    rw [candidatesFor, CandidateIndex.matchKeyed, hkeys]
    exact mem_rank.mpr hfound
  rw [hcandidates] at hranked hmem
  have hothers : rival ∈ others := by
    apply (List.mem_cons.mp hmem).resolve_left
    intro htop
    apply hne
    rw [← hid, ← htop, hrival]
    rfl
  have hscore : rival.confidence = score := by
    rw [hrival]
    rfl
  rw [← hscore]
  exact ⟨hranked.confidence_le hmem, ReconcilePolicy.far_of_not_ambiguous
    (ImportPolicy.sensible_of_valid hvalid) hranked hclear hothers⟩

end Run

theorem ImportPolicy.Unrivalled.congr
    {policy : ImportPolicy} {c d : Catalog} {keys : MatchKeys} {id : CatalogId}
    {confidence : Float} (hentries : c.entries = d.entries)
    (hunrivalled : policy.Unrivalled c keys id confidence) :
    policy.Unrivalled d keys id confidence := by
  rw [Unrivalled, ← hentries]
  exact hunrivalled

theorem Catalog.LacksIsbnOf.of_alike
    {c d : Catalog} {raw : RawRow} (hlacks : c.LacksIsbnOf raw) (halike : d.Alike c) :
    d.LacksIsbnOf raw :=
  fun key hkey hknown => hlacks key hkey (hknown.of_alike halike.symm)

/-! ## Runs -/

namespace CandidateIndex

variable {index : CandidateIndex} {policy : ImportPolicy}

/-- If matching may score as many entries as there are, then a row that has no ISBN of the catalog
and is taken for an entry matches no other entry about as well, among those that share tokens with
it and have a score above zero that reaches the threshold of the matcher. -/
theorem importBatch_unrivalled
    (hindex : index.Reachable) (hvalid : policy.validate = .ok ())
    (hsize : index.size ≤ policy.matching.topK.toNat)
    (cores : UInt64) (cancellation : Cancellation) (rows : List RawRow) :
    let taken := dispatched policy cores cancellation rows
    let progress := index.progress policy cores cancellation rows
    index.importBatch policy cores cancellation rows =
      .ok (.tally policy.isDryRun progress.cancelled progress.outcomes,
        { index with catalog := progress.catalog }) ∧
    taken.Sublist rows ∧
    (chunkSize (policy.workerCount cores) ≠ 0 → cancellation = .never → taken = rows) ∧
    progress.outcomes.length = taken.length ∧
    ∀ (i : Nat) (raw : RawRow) (row : UInt64) (item : Item) (entry : CatalogEntry)
      (old new : Money) (confidence : Float) (changed applied : Bool),
      taken[i]? = some raw → index.catalog.LacksIsbnOf raw →
      progress.outcomes[i]? =
        some (.decided ⟨row, item, .autoApplied entry old new confidence changed applied⟩) →
      policy.Unrivalled index.catalog (MatchKeys.ofRow raw) entry.id confidence := by
  intro taken progress
  let run : Run := ⟨index, policy⟩
  refine ⟨importBatch_of_valid hindex.isEmpty_eq_false hvalid,
    dispatched_sublist policy cores cancellation rows,
    fun hsize hnever => dispatched_of_never hsize hnever,
    (congrArg List.length outcomes_progress).trans (run.length_handleAll index.catalog taken), ?_⟩
  intro i raw row item entry old new confidence changed applied htaken hlacks houtcome
  -- The rows before have changed prices, but neither entries nor their keys.
  have hbefore : (run.indexAt (run.catalogAfter index.catalog (taken.take i))).Reachable :=
    reachable_catalogAfter run hindex _
  have halike := Run.alike_catalogAfter run index.catalog (taken.take i)
  have hsize' : (run.catalogAfter index.catalog (taken.take i)).size ≤
      policy.matching.topK.toNat := by
    rw [Catalog.size, halike.entries_eq]
    exact hsize
  rw [getElem?_outcomes_progress index htaken] at houtcome
  exact (Run.unrivalled_of_handle hbefore hvalid hsize' (hlacks.of_alike halike)
    (Option.some.inj houtcome)).congr halike.entries_eq

/-! ## Two editions, and two entries with one token in common -/

/-- Two editions of a book, of which one has a publisher. -/
def editions : List CatalogEntry :=
  [{ id := ⟨1⟩
     isbn := none
     title := "War and Peace"
     author := "Leo Tolstoy"
     publisher := "Eksmo"
     price := ⟨750.0, .rub⟩
     publicationYear := none },
   { id := ⟨2⟩
     isbn := none
     title := "War and Peace"
     author := "Leo Tolstoy"
     publisher := ""
     price := ⟨900.0, .rub⟩
     publicationYear := none }]

/-- A row about the edition with the publisher. -/
def editionRow : RawRow :=
  { RawRow.blank 1 with
    title := some "War and Peace"
    author := some "Leo Tolstoy"
    publisher := some "Eksmo"
    price := some "850" }

/-- The title of one entry is the author of the other. -/
def namesakes : List CatalogEntry :=
  [{ id := ⟨1⟩
     isbn := none
     title := "Peace"
     author := ""
     publisher := ""
     price := ⟨750.0, .rub⟩
     publicationYear := none },
   { id := ⟨2⟩
     isbn := none
     title := "Oblomov"
     author := "Peace"
     publisher := ""
     price := ⟨900.0, .rub⟩
     publicationYear := none }]

/-- A row about the entry with the title. -/
def namesakeRow : RawRow :=
  { RawRow.blank 1 with
    title := some "Peace"
    price := some "850" }

/-- The entries of a built index, and what comes of one row. -/
def runAlone (entries : List CatalogEntry) (policy : ImportPolicy) (raw : RawRow) :
    Except EngineError (List CatalogEntry × List Outcome) :=
  (build entries 20).map fun index =>
    (index.catalog.entries.toList, (index.progress policy 4 .never [raw]).outcomes)

theorem exists_build_of_runAlone
    {entries all : List CatalogEntry} {raw : RawRow} {outcomes : List Outcome}
    (hrun : runAlone entries policy raw = .ok (all, outcomes)) :
    ∃ index, build entries 20 = .ok index ∧ index.catalog.entries.toList = all ∧
      (index.progress policy 4 .never [raw]).outcomes = outcomes := by
  unfold runAlone at hrun
  cases hbuild : build entries 20 with
  | error e =>
      rw [hbuild] at hrun
      cases hrun
  | ok index =>
      rw [hbuild] at hrun
      cases hrun
      exact ⟨index, rfl, rfl, rfl⟩

/-- The row that is about the edition with the publisher is taken for it.  The other edition is worth
a look, but too far from it. -/
theorem importBatch_unrivalled_editions :
    ∃ (index : CandidateIndex) (item : Item) (entry other : CatalogEntry) (old new : Money),
      build editions 20 = .ok index ∧
      (index.progress {} 4 .never [editionRow]).outcomes =
        [.decided ⟨1, item, .autoApplied entry old new 1.0 true true⟩] ∧
      other ∈ index.catalog.entries ∧ other.id ≠ entry.id ∧
      (MatchKeys.ofRow editionRow).SharesToken other ∧
      matchScore ({} : ImportPolicy).matching.weights (MatchKeys.ofRow editionRow) other = 0.9 ∧
      ¬ (1.0 : Float) - 0.9 ≤ ({} : ImportPolicy).reconcile.ambiguityBand := by
  have hrun : runAlone editions {} editionRow =
      .ok (editions, [.decided ⟨1,
        ⟨1, none, none, "War and Peace", "Leo Tolstoy", "Eksmo", ⟨850.0, .rub⟩, 0⟩,
        .autoApplied (editions[0].withPrice ⟨850.0, .rub⟩) ⟨750.0, .rub⟩ ⟨850.0, .rub⟩ 1.0 true
          true⟩]) := by decide +kernel
  obtain ⟨index, hbuild, hentries, houtcomes⟩ := exists_build_of_runAlone hrun
  have hsize : index.size ≤ ({} : ImportPolicy).matching.topK.toNat := by
    rw [size, Catalog.size, ← Array.length_toList, hentries]
    decide
  have hother : editions[1] ∈ index.catalog.entries := by
    rw [← Array.mem_toList_iff, hentries]
    exact List.getElem_mem _
  have hlacks : index.catalog.LacksIsbnOf editionRow := fun key hkey => by cases hkey
  have hscore : matchScore ({} : ImportPolicy).matching.weights (MatchKeys.ofRow editionRow)
      editions[1] = 0.9 := by decide +kernel
  have hshares : (MatchKeys.ofRow editionRow).SharesToken editions[1] := by
    unfold MatchKeys.SharesToken
    decide +kernel
  obtain ⟨-, -, htaken, -, hunrivalled⟩ :=
    importBatch_unrivalled (.built hbuild) (rfl : ({} : ImportPolicy).validate = .ok ()) hsize 4
      .never [editionRow]
  rw [htaken (by decide) rfl] at hunrivalled
  have hfar := hunrivalled 0 editionRow 1 _ _ _ _ _ _ _ rfl hlacks
    (congrArg (·[0]?) houtcomes) _ hother (by decide) hshares
  rw [hscore] at hfar
  obtain ⟨-, hfar⟩ := hfar (by decide) (by decide)
  exact ⟨index, _, _, _, _, _, hbuild, houtcomes, hother, by decide, hshares, hscore,
    hfar (by decide)⟩

/-! ## Rivals that matching leaves out -/

/-- A run takes the row for an entry, although another one that shares tokens with it is worth a
look and no farther from it than the ambiguity band. -/
def TakenDespiteRival (entries : List CatalogEntry) (policy : ImportPolicy) (raw : RawRow) : Prop :=
  ∃ (index : CandidateIndex) (row : UInt64) (item : Item) (entry other : CatalogEntry)
    (old new : Money) (confidence : Float) (changed applied : Bool),
    build entries 20 = .ok index ∧ policy.validate = .ok () ∧
    index.size ≤ policy.matching.topK.toNat ∧ index.catalog.LacksIsbnOf raw ∧
    (index.progress policy 4 .never [raw]).outcomes =
      [.decided ⟨row, item, .autoApplied entry old new confidence changed applied⟩] ∧
    other ∈ index.catalog.entries ∧ other.id ≠ entry.id ∧
    (MatchKeys.ofRow raw).SharesToken other ∧
    let score := matchScore policy.matching.weights (MatchKeys.ofRow raw) other
    policy.reconcile.reviewMin ≤ score ∧
      confidence - score ≤ policy.reconcile.ambiguityBand

theorem takenDespiteRival_of_runAlone
    {entries : List CatalogEntry} {raw : RawRow} {row : UInt64} {item : Item}
    {entry other : CatalogEntry} {old new : Money} {confidence : Float} {changed applied : Bool}
    (hrun : runAlone entries policy raw = .ok (entries,
      [.decided ⟨row, item, .autoApplied entry old new confidence changed applied⟩]))
    (hvalid : policy.validate = .ok ()) (hsize : entries.length ≤ policy.matching.topK.toNat)
    (hisbn : (MatchKeys.ofRow raw).isbn = none) (hother : other ∈ entries)
    (hne : other.id ≠ entry.id) (hshares : (MatchKeys.ofRow raw).SharesToken other)
    (hreview : policy.reconcile.reviewMin ≤
      matchScore policy.matching.weights (MatchKeys.ofRow raw) other)
    (hnear : confidence - matchScore policy.matching.weights (MatchKeys.ofRow raw) other ≤
      policy.reconcile.ambiguityBand) :
    TakenDespiteRival entries policy raw := by
  obtain ⟨index, hbuild, hentries, houtcomes⟩ := exists_build_of_runAlone hrun
  refine ⟨index, row, item, entry, other, old, new, confidence, changed, applied, hbuild, hvalid,
    ?_, ?_, houtcomes, ?_, hne, hshares, hreview, hnear⟩
  · rwa [size, Catalog.size, ← Array.length_toList, hentries]
  · intro key hkey
    rw [hisbn] at hkey
    cases hkey
  · rwa [← Array.mem_toList_iff, hentries]

/-- Of two editions at scores of 1 and 0.9, a threshold of 0.95 leaves one out, although the
ambiguity band is 0.2 wide.  Of two entries at scores of 0.6 and zero, the one at zero is left out,
although both thresholds are zero and the band is as wide as can be. -/
theorem takenDespiteRival_below_threshold_or_zero :
    TakenDespiteRival editions
      { matching := { threshold := 0.95 }, reconcile := { ambiguityBand := 0.2 } } editionRow ∧
    TakenDespiteRival namesakes
      { matching := { threshold := 0.0 }
        reconcile := { autoApplyMin := 0.5, reviewMin := 0.0, ambiguityBand := 1.0 } }
      namesakeRow := by
  have heditions : runAlone editions
      { matching := { threshold := 0.95 }, reconcile := { ambiguityBand := 0.2 } } editionRow =
        .ok (editions, [.decided ⟨1,
          ⟨1, none, none, "War and Peace", "Leo Tolstoy", "Eksmo", ⟨850.0, .rub⟩, 0⟩,
          .autoApplied (editions[0].withPrice ⟨850.0, .rub⟩) ⟨750.0, .rub⟩ ⟨850.0, .rub⟩ 1.0 true
            true⟩]) := by decide +kernel
  have hnamesakes : runAlone namesakes
      { matching := { threshold := 0.0 }
        reconcile := { autoApplyMin := 0.5, reviewMin := 0.0, ambiguityBand := 1.0 } }
      namesakeRow =
        .ok (namesakes, [.decided ⟨1, ⟨1, none, none, "Peace", "", "", ⟨850.0, .rub⟩, 0⟩,
          .autoApplied (namesakes[0].withPrice ⟨850.0, .rub⟩) ⟨750.0, .rub⟩ ⟨850.0, .rub⟩ 0.6 true
            true⟩]) := by decide +kernel
  have hedition : (MatchKeys.ofRow editionRow).SharesToken editions[1] := by
    unfold MatchKeys.SharesToken
    decide +kernel
  have hnamesake : (MatchKeys.ofRow namesakeRow).SharesToken namesakes[1] := by
    unfold MatchKeys.SharesToken
    decide +kernel
  constructor
  · exact takenDespiteRival_of_runAlone heditions rfl (by decide) rfl (List.getElem_mem _)
      (by decide) hedition (by decide +kernel) (by decide +kernel)
  · exact takenDespiteRival_of_runAlone hnamesakes rfl (by decide) rfl (List.getElem_mem _)
      (by decide) hnamesake (by decide +kernel) (by decide +kernel)

end CandidateIndex

end Repricing

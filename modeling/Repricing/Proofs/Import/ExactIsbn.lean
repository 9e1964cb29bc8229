import Repricing.Proofs.Import.Accounting
import Repricing.Proofs.Import.Decisions
import Repricing.Proofs.Matching.ExactMatch
import Repricing.Proofs.Matching.Ranking

/-!
# Rows with an ISBN of the catalog

A row whose ISBN, in whatever spelling, is in the catalog is taken for the first entry that has it,
or left to a person if it is in another currency.  Nothing else about the row matters, nor do the
thresholds of the policy.
-/

namespace Repricing

/-- A row that can be converted and has an ISBN can be matched. -/
theorem KeyedItem.ofRow_of_isbn
    {raw : RawRow} {default : Currency} {item : Item} {key : String}
    (hkey : (MatchKeys.ofRow raw).isbn = some key) (hitem : raw.toItem default = .ok item) :
    KeyedItem.ofRow raw default = .ok ⟨item, MatchKeys.ofRow raw⟩ := by
  have husable : (MatchKeys.ofRow raw).isUsable = true := by simp [MatchKeys.isUsable, hkey]
  simp [ofRow, husable, hitem, Except.map]

namespace Run

/-- The candidates for an item are ranked already when they are found. -/
theorem candidatesFor_eq_matchKeyed (run : Run) (c : Catalog) (keyed : KeyedItem) :
    run.candidatesFor c keyed = (run.indexAt c).matchKeyed run.policy.matching keyed :=
  CandidateIndex.rank_matchKeys _ _ _ _

/-- What becomes of an item that an ISBN leads to an entry. -/
structure DecidedByIsbn (item : Item) (entry : CatalogEntry) (decision : Decision) : Prop where
  /-- An offer in the currency of the entry is taken. -/
  taken : item.price.currency = entry.price.currency →
    ∃ current changed applied,
      current.id = entry.id ∧
      decision = .autoApplied current entry.price item.price 1.0 changed applied
  /-- An offer in another currency is left to a person. -/
  left : item.price.currency ≠ entry.price.currency →
    decision = .pendingReview .currencyMismatch [exactMatch entry] 1.0 item.price

/-- No threshold of a policy that makes sense is above the confidence of a match by ISBN. -/
theorem decidedByIsbn_of_decides
    {policy : ReconcilePolicy} {commit : Bool} {item : Item} {c after : Catalog}
    {entry : CatalogEntry} {decision : Decision} (hsensible : policy.Sensible)
    (hknown : c.get? entry.id = some entry)
    (hdecides : policy.Decides commit item c [exactMatch entry] decision after) :
    DecidedByIsbn item entry decision := by
  obtain ⟨⟨-, happly⟩, ⟨-, hreview⟩, -⟩ := hsensible
  -- With one candidate there is neither a lack of matches nor an ambiguity.
  cases hdecides with
  | belowThreshold hbelow => exact absurd hbelow (not_lt_of_le hreview)
  | lowConfidence _ hlow => exact absurd hlow (not_lt_of_le happly)
  | currencyMismatch _ _ hcurrency =>
      refine ⟨fun heq => absurd heq hcurrency, fun _ => ?_⟩
      have hall : ∀ candidate ∈ [exactMatch entry],
          c.get? candidate.entry.id = some candidate.entry := by
        intro candidate hcandidate
        rw [List.mem_singleton.mp hcandidate]
        exact hknown
      exact policy.pending_of_known item .currencyMismatch hall hreview
  | autoApplied _ hcurrency hoffer hold hcurrent =>
      refine ⟨fun _ => ?_, fun hne => absurd hcurrency hne⟩
      rw [hold, Catalog.new_of_applyPrice hoffer]
      exact ⟨_, _, _, Catalog.id_of_get? hcurrent, rfl⟩

/-- A row with an ISBN of the catalog is decided about by this ISBN alone. -/
theorem exists_decidedByIsbn
    {run : Run} {c : Catalog} (hindex : (run.indexAt c).Reachable)
    (hvalid : run.policy.validate = .ok ())
    {raw : RawRow} {item : Item} {text key : String} (htext : raw.isbn = some text)
    (hkey : bareIsbn? text = some key) (hknown : c.HasIsbn key)
    (hitem : raw.toItem run.policy.options.defaultCurrency = .ok item) :
    ∃ entry decision,
      c.FirstWithIsbn key entry ∧
      (run.handle c raw).1 = .decided ⟨raw.row, item, decision⟩ ∧
      DecidedByIsbn item entry decision := by
  have hrowKey : (MatchKeys.ofRow raw).isbn = some key := by
    rw [MatchKeys.ofRow, MatchKeys.ofFields, htext]
    exact hkey
  obtain ⟨entry, hfirst, hmatch⟩ := CandidateIndex.matchKeys_of_isbn hindex hkey hknown
  obtain ⟨decision, after, hhandle, hdecides⟩ :=
    exists_decides (c := c) (KeyedItem.ofRow_of_isbn hrowKey hitem)
  have hcandidates :
      run.candidatesFor c ⟨item, MatchKeys.ofRow raw⟩ = [exactMatch entry] := by
    rw [candidatesFor_eq_matchKeyed, CandidateIndex.matchKeyed, hmatch _ _ _ hrowKey]
  rw [hcandidates] at hdecides
  refine ⟨entry, decision, hfirst, ?_, ?_⟩
  · rw [hhandle, ← (RawRow.toItem_eq_ok hitem).1]
  · exact decidedByIsbn_of_decides (ImportPolicy.sensible_of_valid hvalid) hfirst.current hdecides

end Run

namespace CandidateIndex

variable {index : CandidateIndex} {policy : ImportPolicy}

/-- A row with an ISBN of the catalog matches the first entry that has it, and nothing else,
however the row and the settings look otherwise.  Wherever a run takes the row up, it is taken for
this entry, or left to a person if it is in another currency. -/
theorem importBatch_isbn
    (hindex : index.Reachable) (hvalid : policy.validate = .ok ())
    {raw : RawRow} {item : Item} {text key : String} (htext : raw.isbn = some text)
    (hkey : bareIsbn? text = some key) (hknown : index.catalog.HasIsbn key)
    (hitem : raw.toItem policy.options.defaultCurrency = .ok item)
    (cores : UInt64) (cancellation : Cancellation) (rows : List RawRow) :
    let taken := dispatched policy cores cancellation rows
    let progress := index.progress policy cores cancellation rows
    index.importBatch policy cores cancellation rows =
      .ok (.tally policy.isDryRun progress.cancelled progress.outcomes,
        { index with catalog := progress.catalog }) ∧
    taken.Sublist rows ∧
    (chunkSize (policy.workerCount cores) ≠ 0 → cancellation = .never → taken = rows) ∧
    ∃ first, index.catalog.FirstWithIsbn key first ∧
      (∀ (settings : MatchSettings) (keys : MatchKeys) (threshold : Float),
        keys.isbn = some key →
          index.matchKeys settings keys threshold = [exactMatch first]) ∧
      (∀ (settings : MatchSettings) (threshold : Float),
        index.potentialMatches settings item threshold = [exactMatch first]) ∧
      ∀ i, taken[i]? = some raw →
        ∃ price decision,
          let entry := first.withPrice price
          price.currency = first.price.currency ∧
          (Run.catalogAfter ⟨index, policy⟩ index.catalog (taken.take i)).get? first.id =
            some entry ∧
          progress.outcomes[i]? = some (.decided ⟨raw.row, item, decision⟩) ∧
          Run.DecidedByIsbn item entry decision := by
  intro taken progress
  obtain ⟨first, hfirst, hmatch⟩ := matchKeys_of_isbn hindex hkey hknown
  refine ⟨importBatch_of_valid hindex.isEmpty_eq_false hvalid,
    dispatched_sublist policy cores cancellation rows,
    fun hsize hnever => dispatched_of_never hsize hnever, first, hfirst, hmatch,
    fun settings threshold => hmatch settings _ threshold (isbn_ofItem htext hkey hitem), ?_⟩
  intro i htaken
  -- The rows before have changed prices, but not which entry is the first with the ISBN.
  let run : Run := ⟨index, policy⟩
  let before := run.catalogAfter index.catalog (taken.take i)
  have hbefore : (run.indexAt before).Reachable := reachable_catalogAfter run hindex _
  have halike : before.Alike index.catalog := Run.alike_catalogAfter run _ _
  obtain ⟨price, hcurrency, hcurrent⟩ := hfirst.of_alike halike
  obtain ⟨entry, decision, hentry, houtcome, hdecision⟩ :=
    Run.exists_decidedByIsbn hbefore hvalid htext hkey (hknown.of_alike halike) hitem
  obtain rfl := hentry.unique hcurrent
  refine ⟨price, decision, hcurrency, hcurrent.current, ?_, hdecision⟩
  rw [getElem?_outcomes_progress index htaken, houtcome]

/-- The ISBN of an entry in another spelling, and an offer in another currency. -/
def spelledRow : RawRow :=
  { sampleRow 2 "900" (some "usd") with isbn := some " ISBN: 978 5 699 12345 6" }

/-- An offer in another currency is left to a person, at the price that the row before has set. -/
theorem importBatch_isbn_sample :
    ∃ index first item price,
      build sampleEntries 20 = .ok index ∧
      index.catalog.FirstWithIsbn "9785699123456" first ∧
      index.matchKeys { topK := 1 } ⟨some "9785699123456", "crime", "", ""⟩ 1.0 =
        [exactMatch first] ∧
      (Run.catalogAfter ⟨index, {}⟩ index.catalog [sampleRow 1 "850" none]).get? first.id =
        some (first.withPrice price) ∧
      (index.progress {} 4 .never [sampleRow 1 "850" none, spelledRow]).outcomes[1]? =
        some (.decided ⟨2, item,
          .pendingReview .currencyMismatch [exactMatch (first.withPrice price)] 1.0
            item.price⟩) := by
  obtain ⟨index, hbuild⟩ := exists_build_sampleEntries
  have hknown : index.catalog.HasIsbn "9785699123456" := by
    have hany : ((build sampleEntries 20).map fun index =>
        index.catalog.entries.any fun entry =>
          entry.isbn.bind bareIsbn? == some "9785699123456") = .ok true := by decide +kernel
    rw [hbuild] at hany
    obtain ⟨i, hi, hisbn⟩ := Array.any_eq_true.mp (Except.ok.inj hany)
    exact ⟨index.catalog.entries[i], Array.getElem_mem hi, beq_iff_eq.mp hisbn⟩
  have hvalid : ({} : ImportPolicy).validate = .ok () := rfl
  have htext : spelledRow.isbn = some " ISBN: 978 5 699 12345 6" := rfl
  have hkey : bareIsbn? " ISBN: 978 5 699 12345 6" = some "9785699123456" := by decide +kernel
  have hitems : (spelledRow.toItem .rub).toBool = true := by decide +kernel
  cases hitem : spelledRow.toItem .rub with
  | error error =>
      rw [hitem] at hitems
      cases hitems
  | ok item =>
      obtain ⟨-, -, -, first, hfirst, hmatch, -, hrows⟩ :=
        importBatch_isbn (.built hbuild) hvalid htext hkey hknown hitem 4 .never
          [sampleRow 1 "850" none, spelledRow]
      have haccepted : ({} : ImportPolicy).Accepted 4 := ⟨rfl, by decide, by decide⟩
      rw [dispatched_never haccepted] at hrows
      obtain ⟨price, decision, -, hcurrent, houtcome, hdecision⟩ := hrows 1 rfl
      have hkinds : ((build sampleEntries 20).map fun index =>
          (index.progress {} 4 .never [sampleRow 1 "850" none, spelledRow]).outcomes.map
            (·.hasKind .pendingReview)) = .ok [false, true] := by decide +kernel
      rw [hbuild] at hkinds
      have hkind := congrArg (·[1]?) (Except.ok.inj hkinds)
      dsimp only at hkind
      rw [List.getElem?_map, houtcome] at hkind
      by_cases hsame : item.price.currency = (first.withPrice price).price.currency
      · obtain ⟨current, changed, applied, -, rfl⟩ := hdecision.taken hsame
        cases hkind
      · rw [hdecision.left hsame] at houtcome
        exact ⟨index, first, item, price, hbuild, hfirst, hmatch _ _ _ rfl, hcurrent, houtcome⟩

end CandidateIndex

end Repricing

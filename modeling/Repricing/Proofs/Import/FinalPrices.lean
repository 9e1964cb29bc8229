import Repricing.Proofs.Float.Bounds
import Repricing.Proofs.Import.Accounting
import Repricing.Proofs.Import.EntryHistory
import Repricing.Proofs.Reconcile.Branches

/-!
# The price that a run leaves

A row that is taken for an entry offers its price, which is written unless it is within the
tolerance of the price that the rows before have left.  However many offers are passed over in this
way, the price does not drift away from them: after each offer it is within the tolerance of this
offer, and it is an offered price, or the one that the run has begun with.
-/

namespace Repricing

/-! ## Offers -/

/-- The price of the item of a row. -/
def RawRow.offer? (raw : RawRow) (default : Currency) : Option Money :=
  (KeyedItem.ofRow raw default).toOption.map (·.item.price)

/-- The prices of the rows that were taken for an entry, in the order of the rows. -/
def offersFor (default : Currency) (id : CatalogId) (rows : List RawRow)
    (outcomes : List Outcome) : List Money :=
  (rows.zip outcomes).filterMap fun (raw, outcome) =>
    if outcome.takenFor? = some id then raw.offer? default else none

section Offers

variable {default : Currency} {id : CatalogId} {raw : RawRow} {outcome : Outcome}
  {rows : List RawRow} {outcomes : List Outcome}

theorem offersFor_cons_of_ne (hnot : outcome.takenFor? ≠ some id) :
    offersFor default id (raw :: rows) (outcome :: outcomes) =
      offersFor default id rows outcomes := by
  simp [offersFor, hnot]

theorem offersFor_cons_of_taken
    {keyed : KeyedItem} (htaken : outcome.takenFor? = some id)
    (hrow : KeyedItem.ofRow raw default = .ok keyed) :
    offersFor default id (raw :: rows) (outcome :: outcomes) =
      keyed.item.price :: offersFor default id rows outcomes := by
  have hoffer : raw.offer? default = some keyed.item.price := by
    rw [RawRow.offer?, hrow]
    rfl
  simp [offersFor, htaken, hoffer]

end Offers

theorem RawRow.isFinite_amount
    {raw : RawRow} {amount : Float} (hamount : raw.amount = .ok amount) :
    amount.isFinite = true := by
  unfold RawRow.amount at hamount
  split at hamount
  · cases hamount
  · split at hamount
    · next hprice =>
        cases hamount
        exact (Bool.and_eq_true_iff.mp (Option.filter_eq_some_iff.mp hprice).2).1
    · cases hamount

/-- An offered price is finite. -/
theorem KeyedItem.isFinite_price
    {raw : RawRow} {default : Currency} {keyed : KeyedItem}
    (hrow : KeyedItem.ofRow raw default = .ok keyed) :
    keyed.item.price.amount.isFinite = true := by
  obtain ⟨-, -, hitem⟩ := ofRow_eq_ok_iff.mp hrow
  exact RawRow.isFinite_amount (RawRow.toItem_eq_ok hitem).2

theorem Money.differsFrom_self
    {price : Money} {epsilon : Float} (hfinite : price.amount.isFinite = true)
    (hepsilon : isAmount epsilon = true) :
    price.differsFrom price epsilon = false := by
  have hnonneg : ¬ epsilon < 0.0 := by
    simpa [isAmount] using (Bool.and_eq_true_iff.mp hepsilon).2
  have habs : (price.amount - price.amount).abs = 0.0 := by
    rw [sub_self_of_isFinite hfinite]
    rfl
  simp [differsFrom, sameCurrency, habs, hnonneg]

/-! ## Prices after offers -/

/-- What becomes of the price of an entry when prices are offered for it, one after the other. -/
structure Settles (policy : ReconcilePolicy) (start : Money) (offers : List Money)
    (final : Money) : Prop where
  currency : final.currency = start.currency
  kept : offers = [] → final = start
  source : final = start ∨ final ∈ offers
  near : ∀ last ∈ offers.getLast?,
    final.differsFrom last (policy.epsilonFor start.currency) = false

namespace Settles

variable {policy : ReconcilePolicy} {start price new : Money} {offers : List Money}

theorem refl (policy : ReconcilePolicy) (start : Money) : Settles policy start [] start :=
  ⟨rfl, fun _ => rfl, .inl rfl, nofun⟩

/-- One more offer is written, or it is near the price already. -/
theorem offer
    (hsettles : Settles policy start offers price) (hcurrency : price.currency = new.currency)
    (hself : new.differsFrom new (policy.epsilonFor new.currency) = false) :
    Settles policy start (offers ++ [new])
      (if price.differsFrom new (policy.epsilonFor new.currency) then new else price) := by
  have hstart : new.currency = start.currency := hcurrency.symm.trans hsettles.currency
  have hnear : ∀ final : Money,
      final.differsFrom new (policy.epsilonFor new.currency) = false →
        ∀ last ∈ (offers ++ [new]).getLast?,
          final.differsFrom last (policy.epsilonFor start.currency) = false := by
    intro final hfinal last hlast
    rw [List.getLast?_concat] at hlast
    obtain rfl := Option.some.inj hlast
    rwa [← hstart]
  split
  · exact
      { currency := hstart
        kept := by simp
        source := .inr (List.mem_append_right _ List.mem_cons_self)
        near := hnear new hself }
  · next hsame =>
      exact
        { currency := hsettles.currency
          kept := by simp
          source := hsettles.source.imp_right (List.mem_append_left _)
          near := hnear price (Bool.eq_false_iff.mpr hsame) }

end Settles

/-! ## Runs -/

namespace Run

variable {run : Run} {c : Catalog} {raw : RawRow} {id : CatalogId} {price : Money}

/-- A row that is taken for an entry leaves its own price or, within the tolerance, the one that it
has found. -/
theorem currentPrice_handle_of_takenFor
    (hcommit : run.policy.isDryRun = false) (hprice : c.currentPrice id = .ok price)
    (htaken : (run.handle c raw).1.takenFor? = some id) :
    ∃ keyed,
      KeyedItem.ofRow raw run.policy.options.defaultCurrency = .ok keyed ∧
      price.currency = keyed.item.price.currency ∧
      (run.handle c raw).2.currentPrice id =
        .ok (if price.differsFrom keyed.item.price
            (run.policy.reconcile.epsilonFor keyed.item.price.currency)
          then keyed.item.price else price) := by
  obtain ⟨keyed, update, hrow, hoffer, -⟩ := exists_offer_of_takenFor htaken
  refine ⟨keyed, hrow, ?_⟩
  have hafter := Catalog.currentPrice_after_applyPrice hoffer
  have hbefore := Catalog.currentPrice_of_applyPrice hoffer
  obtain ⟨slot, old, -, -, hcurrency, rfl, -⟩ := Catalog.applyPrice_eq_ok_iff.mp hoffer
  obtain rfl : price = old := Except.ok.inj (hprice.symm.trans hbefore)
  rw [hcommit] at hafter
  exact ⟨hcurrency, by simpa [PriceUpdate.ofOffer] using hafter⟩

/-- Each row that is taken for an entry offers a price for it. -/
theorem length_offersFor_handleAll (run : Run) (c : Catalog) (id : CatalogId)
    (rows : List RawRow) :
    (offersFor run.policy.options.defaultCurrency id rows (run.handleAll c rows).1).length =
      (run.handleAll c rows).1.countP (·.takenFor? = some id) := by
  induction rows generalizing c with
  | nil => rfl
  | cons raw rest ih =>
      rw [handleAll_cons]
      by_cases htaken : (run.handle c raw).1.takenFor? = some id
      · obtain ⟨keyed, -, hrow, -⟩ := exists_offer_of_takenFor htaken
        rw [offersFor_cons_of_taken htaken hrow, List.countP_cons_of_pos (by simpa using htaken),
          List.length_cons, ih]
      · rw [offersFor_cons_of_ne htaken, List.countP_cons_of_neg (by simpa using htaken), ih]

/-- Rows that are handled one after the other settle the price of each entry, whatever rows before
them have offered. -/
theorem settles_handleAll
    (run : Run) (hvalid : run.policy.validate = .ok ()) (hcommit : run.policy.isDryRun = false)
    {start : Money} {seen : List Money} (hprice : c.currentPrice id = .ok price)
    (hseen : Settles run.policy.reconcile start seen price) (rows : List RawRow) :
    ∃ final, (run.catalogAfter c rows).currentPrice id = .ok final ∧
      Settles run.policy.reconcile start
        (seen ++ offersFor run.policy.options.defaultCurrency id rows (run.handleAll c rows).1)
        final := by
  induction rows generalizing c price seen with
  | nil => exact ⟨price, hprice, by simpa [offersFor] using hseen⟩
  | cons raw rest ih =>
      rw [catalogAfter, handleAll_cons, ← catalogAfter]
      by_cases htaken : (run.handle c raw).1.takenFor? = some id
      · obtain ⟨keyed, hrow, hcurrency, hafter⟩ :=
          currentPrice_handle_of_takenFor hcommit hprice htaken
        have hself := Money.differsFrom_self (KeyedItem.isFinite_price hrow)
          ((ImportPolicy.sensible_of_valid hvalid).isAmount_epsilonFor
            keyed.item.price.currency)
        rw [offersFor_cons_of_taken htaken hrow, List.append_cons]
        exact ih hafter (hseen.offer hcurrency hself)
      · rw [offersFor_cons_of_ne htaken]
        exact ih ((currentPrice_handle_of_ne htaken).trans hprice) hseen

end Run

namespace CandidateIndex

variable {index : CandidateIndex} {policy : ImportPolicy} {cores : UInt64}

/-- After a run that writes prices and is not cancelled, the price of each entry is within the
tolerance of the last row that was taken for it, and it is the price before the run or the one of a
row that was taken for it.  An entry that no row was taken for keeps its price. -/
theorem importBatch_settles
    (hindex : index.Reachable) (haccepted : policy.Accepted cores)
    (hcommit : policy.options.updateExistingPrices = true) (rows : List RawRow) :
    let outcomes := (index.progress policy cores .never rows).outcomes
    ∃ after,
      index.importBatch policy cores .never rows = .ok (.tally false false outcomes, after) ∧
      outcomes.length = rows.length ∧
      ∀ id start, index.catalog.currentPrice id = .ok start →
        let offers := offersFor policy.options.defaultCurrency id rows outcomes
        offers.length = outcomes.countP (·.takenFor? = some id) ∧
        ∃ final, after.catalog.currentPrice id = .ok final ∧
          Settles policy.reconcile start offers final := by
  have hdry : policy.isDryRun = false := by simp [ImportPolicy.isDryRun, hcommit]
  have hrun := importBatch_never hindex haccepted rows
  rw [hdry] at hrun
  simp only [progress_never index haccepted]
  refine ⟨_, hrun, Run.length_handleAll _ _ rows, ?_⟩
  intro id start hstart
  exact ⟨Run.length_offersFor_handleAll ⟨index, policy⟩ index.catalog id rows,
    Run.settles_handleAll ⟨index, policy⟩ haccepted.valid hdry hstart
      (.refl policy.reconcile start) rows⟩

/-- Two rows for one entry, the second of which is within the tolerance of the first. -/
def nearbyRows : List RawRow :=
  [sampleRow 1 "850" none, sampleRow 2 "850.005" none]

/-- The price of the second row is passed over, and stays within the tolerance. -/
theorem importBatch_settles_nearbyRows :
    ∃ index after, build sampleEntries 20 = .ok index ∧
      let outcomes := (index.progress {} 4 .never nearbyRows).outcomes
      index.importBatch {} 4 .never nearbyRows = .ok (.tally false false outcomes, after) ∧
      after.catalog.currentPrice ⟨42⟩ = .ok ⟨850.0, .rub⟩ ∧
      Settles {} ⟨750.0, .rub⟩ [⟨850.0, .rub⟩, ⟨850.005, .rub⟩] ⟨850.0, .rub⟩ := by
  obtain ⟨index, hbuild⟩ := exists_build_sampleEntries
  have haccepted : ({} : ImportPolicy).Accepted 4 := ⟨rfl, by decide, by decide⟩
  obtain ⟨after, hrun, -, hsettles⟩ :=
    importBatch_settles (.built hbuild) haccepted rfl nearbyRows
  have hprices : ((build sampleEntries 20).bind fun index =>
      (index.importBatch {} 4 .never nearbyRows).map fun (_, after) =>
        (index.catalog.currentPrice ⟨42⟩, after.catalog.currentPrice ⟨42⟩,
          offersFor .rub ⟨42⟩ nearbyRows (index.progress {} 4 .never nearbyRows).outcomes)) =
      .ok (.ok ⟨750.0, .rub⟩, .ok ⟨850.0, .rub⟩, [⟨850.0, .rub⟩, ⟨850.005, .rub⟩]) := by
    decide +kernel
  rw [hbuild, Except.bind, hrun] at hprices
  obtain ⟨hstart, hprices⟩ := Prod.mk.inj (Except.ok.inj hprices)
  obtain ⟨hfinal, hoffers⟩ := Prod.mk.inj hprices
  obtain ⟨-, final, hafter, hsettled⟩ := hsettles ⟨42⟩ ⟨750.0, .rub⟩ hstart
  obtain rfl : final = ⟨850.0, .rub⟩ := Except.ok.inj (hafter.symm.trans hfinal)
  rw [hoffers] at hsettled
  exact ⟨index, after, hbuild, hrun, hfinal, hsettled⟩

end CandidateIndex

end Repricing

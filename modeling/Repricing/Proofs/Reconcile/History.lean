import Repricing.Proofs.Catalog.Snapshot
import Repricing.Proofs.Reconcile.Cases

/-!
# Histories of a catalog

Offers and updates of prices and reconciliations may follow each other in any order.  Whatever has
been done to a catalog, its entries are those of its snapshot, every price is in the currency that
it had there, and each step has changed the price of the entry that it reports, or none.
-/

namespace Repricing

/-! ## Steps -/

/-- What can be done to a catalog. -/
inductive CatalogStep where
  | offer (id : CatalogId) (new : Money) (epsilon : Float) (commit : Bool)
  | update (id : CatalogId) (item : Item) (epsilon : Float)
  | reconcile (policy : ReconcilePolicy) (commit : Bool) (item : Item)
      (candidates : List Candidate)

/-- What a step answers. -/
inductive StepAnswer where
  | offered (update : PriceUpdate)
  | updated (changed : Bool)
  | decided (decision : Decision)
  | refused (error : EngineError)

namespace CatalogStep

/-- Takes a step.  A step that is refused has no effect. -/
def run (c : Catalog) : CatalogStep → StepAnswer × Catalog
  | .offer id new epsilon commit =>
    match c.applyPrice id new epsilon commit with
    | .ok (change, after) => (.offered change, after)
    | .error e => (.refused e, c)
  | .update id item epsilon =>
    match c.updatePrice id item epsilon with
    | .ok (changed, after) => (.updated changed, after)
    | .error e => (.refused e, c)
  | .reconcile policy commit item candidates =>
    let (decision, after) := policy.reconcile commit item candidates c
    (.decided decision, after)

/-- The price that a step offers. -/
def price : CatalogStep → Money
  | .offer _ new _ _ => new
  | .update _ item _ => item.price
  | .reconcile _ _ item _ => item.price

/-- The entry whose price was written, as the answer to the step has it. -/
def written? : CatalogStep → StepAnswer → Option CatalogId
  | .offer id .., .offered change => if change.applied then some id else none
  | .update id .., .updated changed => if changed then some id else none
  | .reconcile .., .decided (.autoApplied entry _ _ _ _ applied) =>
    if applied then some entry.id else none
  | _, _ => none

end CatalogStep

/-! ## What a step does -/

/-- A price was written: the catalogs are alike, and apart from the price of one entry, which is a
number now, they are equal. -/
structure Catalog.Writes (before : Catalog) (id : CatalogId) (price : Money) (after : Catalog) :
    Prop where
  alike : after.Alike before
  isNaN_eq : price.amount.isNaN = false
  exists_old : ∃ old, before.currentPrice id = .ok old
  current : after.currentPrice id = .ok price
  others : ∀ other, other ≠ id → after.currentPrice other = before.currentPrice other

variable {c : Catalog}

theorem Catalog.writes_of_applyPrice
    {id : CatalogId} {new : Money} {epsilon : Float} {commit : Bool} {update : PriceUpdate}
    {after : Catalog} (hoffer : c.applyPrice id new epsilon commit = .ok (update, after))
    (happlied : update.applied = true) :
    c.Writes id new after := by
  have hcurrent := currentPrice_after_applyPrice hoffer
  rw [if_pos happlied] at hcurrent
  exact
    { alike := alike_of_applyPrice hoffer
      isNaN_eq := isNaN_eq_false_of_applied hoffer happlied
      exists_old := ⟨update.old, currentPrice_of_applyPrice hoffer⟩
      current := hcurrent
      others := fun other hne => currentPrice_applyPrice_of_ne hoffer hne }

/-- What an offer that is not refused does, by whether it was applied. -/
theorem Catalog.effect_of_applyPrice
    {id : CatalogId} {new : Money} {epsilon : Float} {commit : Bool} {update : PriceUpdate}
    {after : Catalog} (hoffer : c.applyPrice id new epsilon commit = .ok (update, after)) :
    match if update.applied then some id else none with
    | none => after = c
    | some id => c.Writes id new after := by
  cases happlied : update.applied with
  | false => exact eq_of_applyPrice_of_not_applied hoffer happlied
  | true => exact writes_of_applyPrice hoffer happlied

/-- An update is an offer that is never dry. -/
theorem Catalog.offer_of_updatePrice
    {id : CatalogId} {item : Item} {epsilon : Float} {changed : Bool} {after : Catalog}
    (hupdate : c.updatePrice id item epsilon = .ok (changed, after)) :
    ∃ update, c.applyPrice id item.price epsilon true = .ok (update, after) ∧
      update.applied = changed := by
  unfold updatePrice at hupdate
  cases hoffer : c.applyPrice id item.price epsilon true with
  | error e =>
      rw [hoffer] at hupdate
      cases hupdate
  | ok answer =>
      rw [hoffer] at hupdate
      cases hupdate
      exact ⟨answer.1, rfl, by rw [applied_of_applyPrice hoffer, Bool.and_true]⟩

/-- A step writes its price for the entry that it reports.  If it reports none, it leaves the
catalog alone. -/
theorem CatalogStep.run_effect (step : CatalogStep) (c : Catalog) :
    match step.written? (step.run c).1 with
    | none => (step.run c).2 = c
    | some id => c.Writes id step.price (step.run c).2 := by
  cases step with
  | offer id new epsilon commit =>
      simp only [run]
      cases hoffer : c.applyPrice id new epsilon commit with
      | error e => rfl
      | ok answer => exact Catalog.effect_of_applyPrice hoffer
  | update id item epsilon =>
      simp only [run]
      cases hupdate : c.updatePrice id item epsilon with
      | error e => rfl
      | ok answer =>
          obtain ⟨update, hoffer, hchanged⟩ := Catalog.offer_of_updatePrice hupdate
          have heffect := Catalog.effect_of_applyPrice hoffer
          rwa [hchanged] at heffect
  | reconcile policy commit item candidates =>
      rcases policy.reconcile_cases commit item candidates c with
        ⟨reason, best, hresult⟩ | ⟨reason, hresult⟩ |
          ⟨top, -, update, after, current, hoffer, hcurrent, hresult⟩
      · simp only [run, hresult, written?]
      · simp only [run, hresult, ReconcilePolicy.pending, written?]
      · have heffect := Catalog.effect_of_applyPrice hoffer
        rw [← Catalog.id_of_get? hcurrent] at heffect
        simp only [run, hresult]
        exact heffect

/-! ## Step after step -/

namespace Catalog

/-- The catalog after steps have been taken. -/
def afterSteps (c : Catalog) (steps : List CatalogStep) : Catalog :=
  steps.foldl (fun c step => (step.run c).2) c

theorem alike_run (step : CatalogStep) (c : Catalog) : (step.run c).2.Alike c := by
  have heffect := step.run_effect c
  split at heffect
  · rw [heffect]
    exact .refl c
  · exact heffect.alike

theorem alike_afterSteps (c : Catalog) (steps : List CatalogStep) :
    (c.afterSteps steps).Alike c := by
  induction steps generalizing c with
  | nil => exact .refl c
  | cons step rest ih => exact (ih (step.run c).2).trans (alike_run step c)

/-- The price of an entry, if there is one, is a number. -/
def PriceIsNumber (c : Catalog) (id : CatalogId) : Prop :=
  ∀ price, c.currentPrice id = .ok price → price.amount.isNaN = false

theorem PriceIsNumber.run
    {id : CatalogId} (hnumber : c.PriceIsNumber id) (step : CatalogStep) :
    (step.run c).2.PriceIsNumber id := by
  intro price hprice
  have heffect := step.run_effect c
  split at heffect
  · rw [heffect] at hprice
    exact hnumber price hprice
  · next written _ =>
      by_cases hid : id = written
      · subst hid
        rw [heffect.current] at hprice
        obtain rfl := Except.ok.inj hprice
        exact heffect.isNaN_eq
      · rw [heffect.others id hid] at hprice
        exact hnumber price hprice

theorem PriceIsNumber.afterSteps
    {id : CatalogId} (hnumber : c.PriceIsNumber id) (steps : List CatalogStep) :
    (c.afterSteps steps).PriceIsNumber id := by
  induction steps generalizing c with
  | nil => exact hnumber
  | cons step rest ih => exact ih (hnumber.run step)

/-- Whatever is done to the catalog of a snapshot of distinct entries, it changes prices only, keeps
their currencies, and makes no price a number no longer.  All questions about an entry have one
answer, and each step changes the price of the entry that it reports, or nothing. -/
theorem steps_change_reported_prices
    {entries : List CatalogEntry} (hdistinct : (entries.map (·.id)).Nodup) :
    ∃ start, ofEntries entries = .ok start ∧ start.entries.toList.Perm entries ∧
      start.snapshot = start.entries.toList ∧
      ∀ steps,
        let now := start.afterSteps steps
        now.entries = start.entries ∧
        (∀ slot entry, start.entryAt? slot = some entry →
          ∃ price, price.currency = entry.price.currency ∧
            now.Shows slot (entry.withPrice price)) ∧
        (∀ id, (∀ entry ∈ entries, entry.id ≠ id) →
          now.slotOf id = none ∧ now.get? id = none ∧ now.currentPrice id = .error .notFound) ∧
        (∀ id more, now.PriceIsNumber id → (now.afterSteps more).PriceIsNumber id) ∧
        ∀ step : CatalogStep,
          match step.written? (step.run now).1 with
          | none => (step.run now).2 = now
          | some id => now.Writes id step.price (step.run now).2 := by
  obtain ⟨start, hbuilt, hperm⟩ := exists_ofEntries hdistinct
  refine ⟨start, hbuilt, hperm, snapshot_of_ofEntries hbuilt, ?_⟩
  intro steps now
  have halike : now.Alike start := alike_afterSteps start steps
  have hcurrency : now.InSnapshotCurrency :=
    halike.inSnapshotCurrency (inSnapshotCurrency_of_ofEntries hbuilt)
  refine ⟨halike.entries_eq, ?_, ?_, ?_, ?_⟩
  · intro slot entry hentry
    exact hcurrency.exists_shows (halike.entries_eq ▸ hentry)
  · intro id hunknown
    have hslot : now.slotOf id = none := by
      rw [Option.eq_none_iff_forall_ne_some]
      intro slot hslot
      obtain ⟨entry, hentry, hid⟩ := slotOf_eq_some_iff.mp hslot
      rw [halike.entries_eq, ← Array.getElem?_toList] at hentry
      exact hunknown entry (hperm.mem_iff.mp (List.mem_of_getElem? hentry)) hid
    exact ⟨hslot, by simp [get?, hslot], currentPrice_of_slotOf_eq_none hslot⟩
  · intro id more hnumber
    exact hnumber.afterSteps more
  · intro step
    exact step.run_effect now

/-- An entry with a price, and one whose price is no number. -/
def shelf : List CatalogEntry :=
  [{ id := ⟨43⟩
     isbn := none
     title := "Crime and Punishment"
     author := "Fyodor Dostoevsky"
     publisher := ""
     price := ⟨0.0 / 0.0, .rub⟩
     publicationYear := none },
   { id := ⟨42⟩
     isbn := none
     title := "War and Peace"
     author := "Leo Tolstoy"
     publisher := ""
     price := ⟨750.0, .rub⟩
     publicationYear := none }]

/-- A price that is written, one that is no number, and one for an entry that is not there. -/
def shelfSteps : List CatalogStep :=
  [.offer ⟨42⟩ ⟨850.0, .rub⟩ 0.01 true,
   .offer ⟨42⟩ ⟨0.0 / 0.0, .rub⟩ (-1.0) true,
   .offer ⟨44⟩ ⟨10.0, .rub⟩ 0.01 true]

/-- The entry keeps a price that is a number, whatever tolerance an offer comes with. -/
theorem steps_change_reported_prices_shelf :
    ∃ start, ofEntries shelf = .ok start ∧
      start.currentPrice ⟨42⟩ = .ok ⟨750.0, .rub⟩ ∧
      (start.afterSteps shelfSteps).entries = start.entries ∧
      (start.afterSteps shelfSteps).PriceIsNumber ⟨42⟩ ∧
      (start.afterSteps shelfSteps).currentPrice ⟨44⟩ = .error .notFound := by
  obtain ⟨start, hbuilt, -, -, hsteps⟩ := @steps_change_reported_prices shelf (by decide)
  have hprice : (ofEntries shelf).map (·.currentPrice ⟨42⟩) = .ok (.ok ⟨750.0, .rub⟩) := by
    decide +kernel
  rw [hbuilt] at hprice
  have hcurrent : start.currentPrice ⟨42⟩ = .ok ⟨750.0, .rub⟩ := Except.ok.inj hprice
  have hnumber : start.PriceIsNumber ⟨42⟩ := by
    intro price hheld
    rw [hcurrent] at hheld
    obtain rfl := Except.ok.inj hheld
    decide +kernel
  obtain ⟨-, -, -, hkeeps, -⟩ := hsteps []
  obtain ⟨hentries, -, hunknown, -, -⟩ := hsteps shelfSteps
  exact ⟨start, hbuilt, hcurrent, hentries, hkeeps ⟨42⟩ shelfSteps hnumber,
    (hunknown ⟨44⟩ (by decide)).2.2⟩

end Catalog

end Repricing

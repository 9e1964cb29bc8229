import Repricing.Import.Policy
import Repricing.Proofs.Float.Order
import Repricing.Proofs.Reconcile.Cases

/-!
# Which decision is made

Each decision with what leads to it: how the confidence of the best candidate compares with the
thresholds, whether there is a second candidate worth a look, and whether the catalog has the entry,
in the currency of the item.  An item whose candidates are in the catalog is never rejected because
its entry is missing.
-/

namespace Repricing

/-! ## Thresholds of a policy that makes sense -/

theorem isUnit_of_checkUnit
    {setting : UnitSetting} {x : Float} (hcheck : checkUnit setting x = .ok ()) :
    (0.0 : Float) ≤ x ∧ x ≤ 1.0 := by
  unfold checkUnit at hcheck
  split at hcheck
  · next hunit => simpa [isUnit] using hunit
  · cases hcheck

theorem ReconcilePolicy.checkCurrencyEpsilon_eq_ok_iff {code : String} {epsilon : Float} :
    checkCurrencyEpsilon code epsilon = .ok () ↔
      (Currency.read? code).isSome = true ∧ isAmount epsilon = true := by
  unfold checkCurrencyEpsilon
  cases Currency.read? code <;> cases isAmount epsilon <;> simp

theorem bind_eq_ok_iff {ε α β : Type} {x : Except ε α} {f : α → Except ε β} {b : β} :
    x >>= f = .ok b ↔ ∃ a, x = .ok a ∧ f a = .ok b := by
  cases x <;> simp [bind, Except.bind]

theorem forM_eq_ok_iff {ε α : Type} {xs : List α} {f : α → Except ε Unit} :
    xs.forM f = .ok () ↔ ∀ x ∈ xs, f x = .ok () := by
  induction xs with
  | nil => simp [pure, Except.pure]
  | cons x xs ih =>
      rw [List.forM_eq_forM] at ih ⊢
      rw [List.forM_cons, bind_eq_ok_iff, List.forall_mem_cons, ih]
      constructor
      · rintro ⟨⟨⟩, hx, hrest⟩
        exact ⟨hx, hrest⟩
      · rintro ⟨hx, hrest⟩
        exact ⟨(), hx, hrest⟩

namespace ReconcilePolicy

variable {policy : ReconcilePolicy}

/-- The thresholds lie between zero and one, and the tolerances are amounts. -/
structure Sensible (policy : ReconcilePolicy) : Prop where
  autoApplyMin : (0.0 : Float) ≤ policy.autoApplyMin ∧ policy.autoApplyMin ≤ 1.0
  reviewMin : (0.0 : Float) ≤ policy.reviewMin ∧ policy.reviewMin ≤ 1.0
  ambiguityBand : (0.0 : Float) ≤ policy.ambiguityBand ∧ policy.ambiguityBand ≤ 1.0
  priceEpsilon : isAmount policy.priceEpsilon = true
  currencyEpsilon : ∀ tolerance ∈ policy.currencyEpsilon.toList, isAmount tolerance.2 = true

/-- A policy is valid if it passes all checks. -/
theorem checks_of_valid (hvalid : policy.validate = .ok ()) :
    checkUnit .autoApplyMin policy.autoApplyMin = .ok () ∧
    checkUnit .reviewMin policy.reviewMin = .ok () ∧
    checkUnit .ambiguityBand policy.ambiguityBand = .ok () ∧
    isAmount policy.priceEpsilon = true ∧
    ∀ tolerance ∈ policy.currencyEpsilon.toList,
      checkCurrencyEpsilon tolerance.1 tolerance.2 = .ok () := by
  unfold validate at hvalid
  simp only [bind_eq_ok_iff] at hvalid
  obtain ⟨⟨⟩, happly, ⟨⟩, hreview, ⟨⟩, hband, htolerances⟩ := hvalid
  split at htolerances
  · cases htolerances
  split at htolerances
  · cases htolerances
  · next hamount =>
      exact ⟨happly, hreview, hband, by simpa using hamount, forM_eq_ok_iff.mp htolerances⟩

theorem sensible_of_valid (hvalid : policy.validate = .ok ()) : policy.Sensible := by
  obtain ⟨happly, hreview, hband, hamount, htolerances⟩ := checks_of_valid hvalid
  constructor
  case autoApplyMin => exact isUnit_of_checkUnit happly
  case reviewMin => exact isUnit_of_checkUnit hreview
  case ambiguityBand => exact isUnit_of_checkUnit hband
  case priceEpsilon => exact hamount
  case currencyEpsilon =>
    intro tolerance htolerance
    exact (checkCurrencyEpsilon_eq_ok_iff.mp (htolerances tolerance htolerance)).2

theorem Sensible.isAmount_epsilonFor (hsensible : policy.Sensible) (currency : Currency) :
    isAmount (policy.epsilonFor currency) = true := by
  rw [epsilonFor, Std.ExtTreeMap.getD_eq_getD_getElem?]
  cases htolerance : policy.currencyEpsilon[currency.code]? with
  | none => exact hsensible.priceEpsilon
  | some epsilon =>
      exact hsensible.currencyEpsilon (currency.code, epsilon)
        (Std.ExtTreeMap.mem_toList_iff_getElem?_eq_some.mpr htolerance)

end ReconcilePolicy

theorem ImportPolicy.sensible_of_valid
    {policy : ImportPolicy} (hvalid : policy.validate = .ok ()) :
    policy.reconcile.Sensible := by
  unfold validate at hvalid
  simp only [bind_eq_ok_iff] at hvalid
  obtain ⟨⟨⟩, -, ⟨⟩, hreconcile, -⟩ := hvalid
  exact ReconcilePolicy.sensible_of_valid hreconcile

/-! ## Offers for known entries -/

namespace Catalog

variable {c : Catalog} {id : CatalogId} {entry : CatalogEntry} {new : Money} {epsilon : Float}
  {commit : Bool}

theorem exists_slot_of_get? (hget : c.get? id = some entry) :
    ∃ slot, c.slotOf id = some slot ∧ c.priceAt? slot = some entry.price := by
  obtain ⟨slot, hslot, hcurrent⟩ := get?_eq_some_iff.mp hget
  obtain ⟨original, price, -, hprice, rfl⟩ := currentEntryAt?_eq_some_iff.mp hcurrent
  exact ⟨slot, hslot, hprice⟩

theorem currentPrice_of_get? (hget : c.get? id = some entry) :
    c.currentPrice id = .ok entry.price := by
  obtain ⟨slot, hslot, hprice⟩ := exists_slot_of_get? hget
  exact currentPrice_of_slot hslot hprice

theorem applyPrice_of_get?_eq_none (hget : c.get? id = none) :
    c.applyPrice id new epsilon commit = .error .notFound := by
  cases hslot : c.slotOf id with
  | none => exact applyPrice_of_slotOf_eq_none hslot
  | some slot =>
      obtain ⟨current, hcurrent⟩ := exists_currentEntryAt? hslot
      rw [get?, hslot, Option.bind_some, hcurrent] at hget
      cases hget

/-- An offer for an entry of the catalog is taken if it is in the currency of the entry. -/
theorem applyPrice_of_get?
    (hget : c.get? id = some entry) (hcurrency : new.currency = entry.price.currency) :
    ∃ update after, c.applyPrice id new epsilon commit = .ok (update, after) ∧
      update.old = entry.price := by
  obtain ⟨slot, hslot, hprice⟩ := exists_slot_of_get? hget
  exact ⟨_, _, applyPrice_of_currency_eq hslot hprice hcurrency.symm, rfl⟩

/-- An offer in another currency is refused, and not because the entry is missing. -/
theorem applyPrice_of_get?_of_ne
    (hget : c.get? id = some entry) (hcurrency : new.currency ≠ entry.price.currency) :
    ∃ e, c.applyPrice id new epsilon commit = .error e ∧ e ≠ .notFound := by
  obtain ⟨slot, hslot, hprice⟩ := exists_slot_of_get? hget
  exact ⟨_, applyPrice_of_currency_ne hslot hprice hcurrency.symm, nofun⟩

end Catalog

/-! ## Decisions -/

namespace ReconcilePolicy

/-- No threshold keeps an item from being taken for its best candidate. -/
structure Clears (policy : ReconcilePolicy) (top : Candidate) (others : List Candidate) : Prop where
  review : ¬ top.confidence < policy.reviewMin
  unambiguous : policy.isAmbiguous top.confidence others.head? = false
  high : ¬ top.confidence < policy.autoApplyMin

/-- The decisions about an item with ranked candidates, each with what leads to it.  The catalog
need not have the entries of the candidates. -/
inductive Concludes (policy : ReconcilePolicy) (commit : Bool) (item : Item) (c : Catalog) :
    List Candidate → Decision → Catalog → Prop
  | noMatch : Concludes policy commit item c [] (.rejected .noMatch none) c
  | belowThreshold {top : Candidate} {others : List Candidate}
      (hbelow : top.confidence < policy.reviewMin) :
      Concludes policy commit item c (top :: others)
        (.rejected .belowThreshold (some top.confidence)) c
  | ambiguous {top : Candidate} {others : List Candidate}
      (hreview : ¬ top.confidence < policy.reviewMin)
      (hambiguous : policy.isAmbiguous top.confidence others.head? = true) :
      Concludes policy commit item c (top :: others)
        (policy.pending item .ambiguous (top :: others) c) c
  | lowConfidence {top : Candidate} {others : List Candidate}
      (hreview : ¬ top.confidence < policy.reviewMin)
      (hunambiguous : policy.isAmbiguous top.confidence others.head? = false)
      (hlow : top.confidence < policy.autoApplyMin) :
      Concludes policy commit item c (top :: others)
        (policy.pending item .lowConfidence (top :: others) c) c
  | unknown {top : Candidate} {others : List Candidate} (hclears : policy.Clears top others)
      (hget : c.get? top.entry.id = none) :
      Concludes policy commit item c (top :: others)
        (.rejected .noMatch (some top.confidence)) c
  | currencyMismatch {top : Candidate} {others : List Candidate} {entry : CatalogEntry}
      (hclears : policy.Clears top others) (hget : c.get? top.entry.id = some entry)
      (hcurrency : item.price.currency ≠ entry.price.currency) :
      Concludes policy commit item c (top :: others)
        (policy.pending item .currencyMismatch (top :: others) c) c
  | autoApplied {top : Candidate} {others : List Candidate} {update : PriceUpdate}
      {after : Catalog} {entry current : CatalogEntry}
      (hclears : policy.Clears top others) (hget : c.get? top.entry.id = some entry)
      (hcurrency : item.price.currency = entry.price.currency)
      (hoffer : c.applyPrice top.entry.id item.price
        (policy.epsilonFor item.price.currency) commit = .ok (update, after))
      (hold : update.old = entry.price)
      (hcurrent : after.get? top.entry.id = some current) :
      Concludes policy commit item c (top :: others)
        (.autoApplied current update.old update.new top.confidence update.changed
          update.applied) after

/-- An item is decided about in one of these ways. -/
theorem concludes_decideRanked
    (policy : ReconcilePolicy) (commit : Bool) (item : Item) (c : Catalog)
    (ranked : List Candidate) :
    ∃ decision after, policy.decideRanked commit item c ranked = (decision, after) ∧
      policy.Concludes commit item c ranked decision after := by
  cases ranked with
  | nil => exact ⟨_, _, rfl, .noMatch⟩
  | cons top others =>
      by_cases hreview : top.confidence < policy.reviewMin
      · exact ⟨_, _, by simp only [decideRanked, if_pos hreview], .belowThreshold hreview⟩
      by_cases hambiguous : policy.isAmbiguous top.confidence others.head? = true
      · exact ⟨_, _, by simp only [decideRanked, if_neg hreview, if_pos hambiguous],
          .ambiguous hreview hambiguous⟩
      have hunambiguous := Bool.eq_false_of_not_eq_true hambiguous
      by_cases hlow : top.confidence < policy.autoApplyMin
      · exact ⟨_, _, by simp only [decideRanked, if_neg hreview, if_neg hambiguous, if_pos hlow],
          .lowConfidence hreview hunambiguous hlow⟩
      have hclears : policy.Clears top others := ⟨hreview, hunambiguous, hlow⟩
      simp only [decideRanked, if_neg hreview, if_neg hambiguous, if_neg hlow]
      cases hget : c.get? top.entry.id with
      | none =>
          exact ⟨_, _, applyTop_of_unknown (Catalog.applyPrice_of_get?_eq_none hget),
            .unknown hclears hget⟩
      | some entry =>
          by_cases hcurrency : item.price.currency = entry.price.currency
          · obtain ⟨update, after, hoffer, hold⟩ := Catalog.applyPrice_of_get? hget hcurrency
            obtain ⟨current, hcurrent⟩ := Catalog.exists_get?_of_applyPrice hoffer
            exact ⟨_, _, applyTop_of_ok hoffer hcurrent,
              .autoApplied hclears hget hcurrency hoffer hold hcurrent⟩
          · obtain ⟨e, hoffer, hne⟩ := Catalog.applyPrice_of_get?_of_ne hget hcurrency
            exact ⟨_, _, applyTop_of_refused hoffer hne,
              .currencyMismatch hclears hget hcurrency⟩

/-! ## Decisions about known entries -/

/-- The decisions about an item with ranked candidates, each with what leads to it. -/
inductive Decides (policy : ReconcilePolicy) (commit : Bool) (item : Item) (c : Catalog) :
    List Candidate → Decision → Catalog → Prop
  | noMatch : Decides policy commit item c [] (.rejected .noMatch none) c
  | belowThreshold {top : Candidate} {others : List Candidate}
      (hbelow : top.confidence < policy.reviewMin) :
      Decides policy commit item c (top :: others)
        (.rejected .belowThreshold (some top.confidence)) c
  | ambiguous {top second : Candidate} {others : List Candidate}
      (hreview : ¬ top.confidence < policy.reviewMin)
      (hsecond : policy.reviewMin ≤ second.confidence) :
      Decides policy commit item c (top :: second :: others)
        (policy.pending item .ambiguous (top :: second :: others) c) c
  | lowConfidence {top : Candidate} {others : List Candidate}
      (hreview : ¬ top.confidence < policy.reviewMin)
      (hlow : top.confidence < policy.autoApplyMin) :
      Decides policy commit item c (top :: others)
        (policy.pending item .lowConfidence (top :: others) c) c
  | currencyMismatch {top : Candidate} {others : List Candidate}
      (hreview : ¬ top.confidence < policy.reviewMin)
      (hhigh : ¬ top.confidence < policy.autoApplyMin)
      (hcurrency : item.price.currency ≠ top.entry.price.currency) :
      Decides policy commit item c (top :: others)
        (policy.pending item .currencyMismatch (top :: others) c) c
  | autoApplied {top : Candidate} {others : List Candidate} {update : PriceUpdate}
      {after : Catalog} {current : CatalogEntry}
      (hhigh : ¬ top.confidence < policy.autoApplyMin)
      (hcurrency : item.price.currency = top.entry.price.currency)
      (hoffer : c.applyPrice top.entry.id item.price
        (policy.epsilonFor item.price.currency) commit = .ok (update, after))
      (hold : update.old = top.entry.price)
      (hcurrent : after.get? top.entry.id = some current) :
      Decides policy commit item c (top :: others)
        (.autoApplied current update.old update.new top.confidence update.changed
          update.applied) after

/-- Candidates that show their entries as they stand are shown as they are, apart from those below
the review threshold. -/
theorem pending_of_known
    (policy : ReconcilePolicy) (item : Item) (reason : ReviewReason) {c : Catalog}
    {top : Candidate} {others : List Candidate}
    (hknown : ∀ candidate ∈ top :: others,
      c.get? candidate.entry.id = some candidate.entry)
    (htop : policy.reviewMin ≤ top.confidence) :
    policy.pending item reason (top :: others) c =
      .pendingReview reason
        (top :: others.filter fun candidate => policy.reviewMin ≤ candidate.confidence)
        top.confidence item.price := by
  have hshown : ((top :: others).filter fun candidate =>
      policy.reviewMin ≤ candidate.confidence).map (refresh c) =
        top :: others.filter fun candidate => policy.reviewMin ≤ candidate.confidence := by
    rw [List.filter_cons_of_pos (by simpa using htop)]
    conv_rhs => rw [← List.map_id (top :: _)]
    apply List.map_congr_left
    intro candidate hcandidate
    apply refresh_of_current
    apply hknown candidate
    rcases List.mem_cons.mp hcandidate with rfl | hother
    · exact List.mem_cons_self
    · exact List.mem_cons_of_mem _ (List.mem_of_mem_filter hother)
  simp only [pending, hshown]
  rfl

/-- An item whose best candidate stands in the catalog is decided about in one of these ways. -/
theorem decides_decideRanked
    (policy : ReconcilePolicy) (commit : Bool) (item : Item) {c : Catalog}
    {ranked : List Candidate}
    (hknown : ∀ top ∈ ranked, c.get? top.entry.id = some top.entry) :
    ∃ decision after, policy.decideRanked commit item c ranked = (decision, after) ∧
      policy.Decides commit item c ranked decision after := by
  obtain ⟨decision, after, heq, hconcludes⟩ := policy.concludes_decideRanked commit item c ranked
  refine ⟨decision, after, heq, ?_⟩
  cases hconcludes with
  | noMatch => exact .noMatch
  | belowThreshold hbelow => exact .belowThreshold hbelow
  | @ambiguous top others hreview hambiguous =>
      cases others with
      | nil => cases hambiguous
      | cons second rest =>
          rw [List.head?_cons, isAmbiguous, Bool.and_eq_true, decide_eq_true_iff] at hambiguous
          exact .ambiguous hreview hambiguous.1
  | lowConfidence hreview _ hlow => exact .lowConfidence hreview hlow
  | unknown _ hget =>
      rw [hknown _ List.mem_cons_self] at hget
      cases hget
  | currencyMismatch hclears hget hcurrency =>
      obtain rfl := Option.some.inj ((hknown _ List.mem_cons_self).symm.trans hget)
      exact .currencyMismatch hclears.review hclears.high hcurrency
  | autoApplied hclears hget hcurrency hoffer hold hcurrent =>
      obtain rfl := Option.some.inj ((hknown _ List.mem_cons_self).symm.trans hget)
      exact .autoApplied hclears.high hcurrency hoffer hold hcurrent

end ReconcilePolicy

end Repricing

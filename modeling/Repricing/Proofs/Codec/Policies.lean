import Repricing.Proofs.Codec.Records

/-!
# Policies that read back

Settings that are not given have their defaults, which are finite.
-/

namespace Repricing

open Json (AllFinite Floats ReadsBack allFinite allFinite_empty bind_eq_some floats)
open Json.Fields (finite_of_withDefault withDefault_eq_some)

/-! ## Match settings -/

instance : Floats MatchWeights := ⟨fun w => [w.title, w.author, w.publisher]⟩

theorem MatchWeights.allFinite_iff {w : MatchWeights} :
    AllFinite w ↔ AllFinite w.title ∧ AllFinite w.author ∧ AllFinite w.publisher := by
  simp [AllFinite, floats]

theorem MatchWeights.allFinite_standard : AllFinite ({} : MatchWeights) := by decide

instance : ReadsBack MatchWeights where
  decode_encode _ w hfinite := by
    obtain ⟨htitle, hauthor, hpublisher⟩ := MatchWeights.allFinite_iff.mp hfinite
    refine bind_eq_some rfl ?_
    refine bind_eq_some (withDefault_eq_some rfl htitle) ?_
    refine bind_eq_some (withDefault_eq_some rfl hauthor) ?_
    refine bind_eq_some (withDefault_eq_some rfl hpublisher) ?_
    rfl
  finite_of_decode hproper hdecode := by
    obtain ⟨fields, hfields, hdecode⟩ := Option.bind_eq_some_iff.mp hdecode
    simp only [Option.bind_eq_bind, Option.bind_eq_some_iff] at hdecode
    obtain ⟨title, htitle, author, hauthor, publisher, hpublisher, hweights⟩ := hdecode
    cases hweights
    exact MatchWeights.allFinite_iff.mpr
      ⟨finite_of_withDefault hproper hfields (by decide) htitle,
        finite_of_withDefault hproper hfields (by decide) hauthor,
        finite_of_withDefault hproper hfields (by decide) hpublisher⟩

instance : Floats MatchSettings := ⟨fun s => [s.threshold, s.fieldFloor] ++ floats s.weights⟩

theorem MatchSettings.allFinite_iff {s : MatchSettings} :
    AllFinite s ↔ AllFinite s.threshold ∧ AllFinite s.fieldFloor ∧ AllFinite s.weights := by
  simp [AllFinite, floats]

theorem MatchSettings.allFinite_standard : AllFinite ({} : MatchSettings) := by decide

instance : ReadsBack MatchSettings where
  decode_encode _ s hfinite := by
    obtain ⟨hthreshold, hfloor, hweights⟩ := MatchSettings.allFinite_iff.mp hfinite
    refine bind_eq_some rfl ?_
    refine bind_eq_some (withDefault_eq_some rfl hthreshold) ?_
    refine bind_eq_some (withDefault_eq_some rfl (allFinite s.topK)) ?_
    refine bind_eq_some (withDefault_eq_some rfl hfloor) ?_
    refine bind_eq_some (withDefault_eq_some rfl hweights) ?_
    rfl
  finite_of_decode hproper hdecode := by
    obtain ⟨fields, hfields, hdecode⟩ := Option.bind_eq_some_iff.mp hdecode
    simp only [Option.bind_eq_bind, Option.bind_eq_some_iff] at hdecode
    obtain ⟨threshold, hthreshold, topK, -, floor, hfloor, weights, hweights, hsettings⟩ := hdecode
    cases hsettings
    exact MatchSettings.allFinite_iff.mpr
      ⟨finite_of_withDefault hproper hfields (by decide) hthreshold,
        finite_of_withDefault hproper hfields (by decide) hfloor,
        finite_of_withDefault hproper hfields MatchWeights.allFinite_standard hweights⟩

/-! ## Reconcile policies -/

instance : Floats ReconcilePolicy :=
  ⟨fun p => [p.autoApplyMin, p.reviewMin, p.ambiguityBand, p.priceEpsilon]
    ++ floats p.currencyEpsilon⟩

theorem ReconcilePolicy.allFinite_iff {p : ReconcilePolicy} :
    AllFinite p ↔ AllFinite p.autoApplyMin ∧ AllFinite p.reviewMin ∧ AllFinite p.ambiguityBand ∧
      AllFinite p.priceEpsilon ∧ AllFinite p.currencyEpsilon := by
  simp [AllFinite, floats]

theorem ReconcilePolicy.allFinite_standard : AllFinite ({} : ReconcilePolicy) :=
  allFinite_iff.mpr ⟨by decide, by decide, by decide, by decide, allFinite_empty⟩

instance : ReadsBack ReconcilePolicy where
  decode_encode _ p hfinite := by
    obtain ⟨happly, hreview, hband, hepsilon, hcurrencies⟩ :=
      ReconcilePolicy.allFinite_iff.mp hfinite
    refine bind_eq_some rfl ?_
    refine bind_eq_some (withDefault_eq_some rfl happly) ?_
    refine bind_eq_some (withDefault_eq_some rfl hreview) ?_
    refine bind_eq_some (withDefault_eq_some rfl hband) ?_
    refine bind_eq_some (withDefault_eq_some rfl hepsilon) ?_
    refine bind_eq_some (withDefault_eq_some rfl hcurrencies) ?_
    rfl
  finite_of_decode hproper hdecode := by
    obtain ⟨fields, hfields, hdecode⟩ := Option.bind_eq_some_iff.mp hdecode
    simp only [Option.bind_eq_bind, Option.bind_eq_some_iff] at hdecode
    obtain ⟨apply, happly, review, hreview, band, hband, epsilon, hepsilon, currencies, hcurrencies,
      hpolicy⟩ := hdecode
    cases hpolicy
    exact ReconcilePolicy.allFinite_iff.mpr
      ⟨finite_of_withDefault hproper hfields (by decide) happly,
        finite_of_withDefault hproper hfields (by decide) hreview,
        finite_of_withDefault hproper hfields (by decide) hband,
        finite_of_withDefault hproper hfields (by decide) hepsilon,
        finite_of_withDefault hproper hfields allFinite_empty hcurrencies⟩

/-! ## Import policies -/

instance : Floats ImportOptions := ⟨fun o => [o.maxPriceDeviation]⟩

theorem ImportOptions.allFinite_standard : AllFinite ({} : ImportOptions) := by decide

instance : ReadsBack ImportOptions where
  decode_encode _ o hfinite := by
    have hdeviation : AllFinite o.maxPriceDeviation := hfinite
    refine bind_eq_some rfl ?_
    refine bind_eq_some (withDefault_eq_some rfl (allFinite o.workers)) ?_
    refine bind_eq_some (withDefault_eq_some rfl (allFinite o.updateExistingPrices)) ?_
    refine bind_eq_some (withDefault_eq_some rfl (allFinite o.defaultCurrency)) ?_
    refine bind_eq_some (withDefault_eq_some rfl (allFinite o.allowedCurrencies)) ?_
    refine bind_eq_some (withDefault_eq_some rfl hdeviation) ?_
    rfl
  finite_of_decode hproper hdecode := by
    obtain ⟨fields, hfields, hdecode⟩ := Option.bind_eq_some_iff.mp hdecode
    simp only [Option.bind_eq_bind, Option.bind_eq_some_iff] at hdecode
    obtain ⟨workers, -, update, -, currency, -, allowed, -, deviation, hdeviation, hoptions⟩ :=
      hdecode
    cases hoptions
    have hfinite : AllFinite deviation :=
      finite_of_withDefault hproper hfields (by decide) hdeviation
    exact hfinite

instance : Floats ImportPolicy :=
  ⟨fun p => floats p.matching ++ floats p.reconcile ++ floats p.options⟩

theorem ImportPolicy.allFinite_iff {p : ImportPolicy} :
    AllFinite p ↔ AllFinite p.matching ∧ AllFinite p.reconcile ∧ AllFinite p.options := by
  have hfloats : floats p = floats p.matching ++ floats p.reconcile ++ floats p.options := rfl
  rw [AllFinite, hfloats, List.forall_mem_append, List.forall_mem_append, and_assoc]
  rfl

theorem ImportPolicy.allFinite_standard : AllFinite ({} : ImportPolicy) :=
  allFinite_iff.mpr ⟨MatchSettings.allFinite_standard, ReconcilePolicy.allFinite_standard,
    ImportOptions.allFinite_standard⟩

instance : ReadsBack ImportPolicy where
  decode_encode _ p hfinite := by
    obtain ⟨hmatching, hreconcile, hoptions⟩ := ImportPolicy.allFinite_iff.mp hfinite
    refine bind_eq_some rfl ?_
    refine bind_eq_some (withDefault_eq_some rfl hmatching) ?_
    refine bind_eq_some (withDefault_eq_some rfl hreconcile) ?_
    refine bind_eq_some (withDefault_eq_some rfl hoptions) ?_
    rfl
  finite_of_decode hproper hdecode := by
    obtain ⟨fields, hfields, hdecode⟩ := Option.bind_eq_some_iff.mp hdecode
    simp only [Option.bind_eq_bind, Option.bind_eq_some_iff] at hdecode
    obtain ⟨matching, hmatching, reconcile, hreconcile, options, hoptions, hpolicy⟩ := hdecode
    cases hpolicy
    exact ImportPolicy.allFinite_iff.mpr
      ⟨finite_of_withDefault hproper hfields MatchSettings.allFinite_standard hmatching,
        finite_of_withDefault hproper hfields ReconcilePolicy.allFinite_standard hreconcile,
        finite_of_withDefault hproper hfields ImportOptions.allFinite_standard hoptions⟩

end Repricing

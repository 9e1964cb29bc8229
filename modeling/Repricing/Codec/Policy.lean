import Repricing.Codec.Money
import Repricing.Import.Policy

/-!
# JSON forms of policies

Every setting that is not given has its default.
-/

namespace Repricing

open Json (Encode Decode Surplus encode)

instance : Encode MatchWeights where
  encode w := .obj [
    ("title", encode w.title),
    ("author", encode w.author),
    ("publisher", encode w.publisher)]

instance : Decode MatchWeights where
  decode? surplus v := do
    let fields ← Json.fields? ["title", "author", "publisher"] surplus v
    let standard : MatchWeights := {}
    let title ← fields.withDefault "title" standard.title
    let author ← fields.withDefault "author" standard.author
    let publisher ← fields.withDefault "publisher" standard.publisher
    return { title, author, publisher }

instance : Encode MatchSettings where
  encode s := .obj [
    ("threshold", encode s.threshold),
    ("top_k", encode s.topK),
    ("field_floor", encode s.fieldFloor),
    ("weights", encode s.weights)]

instance : Decode MatchSettings where
  decode? surplus v := do
    let fields ← Json.fields? ["threshold", "top_k", "field_floor", "weights"] surplus v
    let standard : MatchSettings := {}
    let threshold ← fields.withDefault "threshold" standard.threshold
    let topK ← fields.withDefault "top_k" standard.topK
    let fieldFloor ← fields.withDefault "field_floor" standard.fieldFloor
    let weights ← fields.withDefault "weights" standard.weights
    return { threshold, topK, fieldFloor, weights }

instance : Encode ReconcilePolicy where
  encode p := .obj [
    ("auto_apply_min", encode p.autoApplyMin),
    ("review_min", encode p.reviewMin),
    ("ambiguity_band", encode p.ambiguityBand),
    ("price_epsilon", encode p.priceEpsilon),
    ("currency_epsilon", Json.encodeMap p.currencyEpsilon)]

instance : Decode ReconcilePolicy where
  decode? surplus v := do
    let names :=
      ["auto_apply_min", "review_min", "ambiguity_band", "price_epsilon", "currency_epsilon"]
    let fields ← Json.fields? names surplus v
    let standard : ReconcilePolicy := {}
    let autoApplyMin ← fields.withDefault "auto_apply_min" standard.autoApplyMin
    let reviewMin ← fields.withDefault "review_min" standard.reviewMin
    let ambiguityBand ← fields.withDefault "ambiguity_band" standard.ambiguityBand
    let priceEpsilon ← fields.withDefault "price_epsilon" standard.priceEpsilon
    let currencyEpsilon ← fields.withDefault "currency_epsilon" standard.currencyEpsilon
    return { autoApplyMin, reviewMin, ambiguityBand, priceEpsilon, currencyEpsilon }

instance : Encode ImportOptions where
  encode o := .obj [
    ("workers", encode o.workers),
    ("update_existing_prices", encode o.updateExistingPrices),
    ("default_currency", encode o.defaultCurrency),
    ("allowed_currencies", encode o.allowedCurrencies),
    ("max_price_deviation", encode o.maxPriceDeviation)]

instance : Decode ImportOptions where
  decode? surplus v := do
    let names := ["workers", "update_existing_prices", "default_currency", "allowed_currencies",
      "max_price_deviation"]
    let fields ← Json.fields? names surplus v
    let standard : ImportOptions := {}
    let workers ← fields.withDefault "workers" standard.workers
    let updateExistingPrices ←
      fields.withDefault "update_existing_prices" standard.updateExistingPrices
    let defaultCurrency ← fields.withDefault "default_currency" standard.defaultCurrency
    let allowedCurrencies ← fields.withDefault "allowed_currencies" standard.allowedCurrencies
    let maxPriceDeviation ← fields.withDefault "max_price_deviation" standard.maxPriceDeviation
    return {
      workers, updateExistingPrices, defaultCurrency, allowedCurrencies, maxPriceDeviation }

instance : Encode ImportPolicy where
  encode p := .obj [
    ("matching", encode p.matching),
    ("reconcile", encode p.reconcile),
    ("import", encode p.options)]

instance : Decode ImportPolicy where
  decode? surplus v := do
    let fields ← Json.fields? ["matching", "reconcile", "import"] surplus v
    let standard : ImportPolicy := {}
    let matching ← fields.withDefault "matching" standard.matching
    let reconcile ← fields.withDefault "reconcile" standard.reconcile
    let options ← fields.withDefault "import" standard.options
    return { matching, reconcile, options }

end Repricing

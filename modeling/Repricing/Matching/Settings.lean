import Repricing.Error

/-!
# Match settings
-/

namespace Repricing

/-- Whether a double lies between zero and one. -/
def isUnit (x : Float) : Bool :=
  0.0 ≤ x && x ≤ 1.0

/-- Whether a double is finite and not negative. -/
def isAmount (x : Float) : Bool :=
  x.isFinite && !(x < 0.0)

/-- Refuses a setting that does not lie between zero and one. -/
def checkUnit (setting : UnitSetting) (value : Float) : Except EngineError Unit :=
  if isUnit value then .ok () else .error (.config (.outsideUnit setting value))

/-- How much each field counts towards the confidence of a match. -/
structure MatchWeights where
  title : Float := 0.6
  author : Float := 0.3
  publisher : Float := 0.1
deriving DecidableEq

/-- How entries are matched to items. -/
structure MatchSettings where
  /-- The least confidence of a candidate. -/
  threshold : Float := 0.5
  /-- How many entries are scored at most. -/
  topK : UInt64 := 20
  /-- The least similarity at which a field counts as matched. -/
  fieldFloor : Float := 0.5
  weights : MatchWeights := {}
deriving DecidableEq

/-- Refuses weights that are no amounts, or none of which counts. -/
def MatchWeights.validate (w : MatchWeights) : Except EngineError Unit :=
  if !isAmount w.title || !isAmount w.author || !isAmount w.publisher then
    .error (.config .badWeight)
  else if w.title + w.author + w.publisher ≤ 0.0 then .error (.config .zeroWeights)
  else .ok ()

/-- Refuses settings that make no sense. -/
def MatchSettings.validate (s : MatchSettings) : Except EngineError Unit := do
  checkUnit .threshold s.threshold
  checkUnit .fieldFloor s.fieldFloor
  if s.topK = 0 then throw (.config .noCandidates)
  s.weights.validate

end Repricing

import Repricing.Codec.Report
import Repricing.Proofs.Codec.Lossless

/-!
# Reports lose nothing

A decision is told from all others by its kind and the fields of its kind, so a report whose
amounts and confidences are finite is the only one with its document, apart from what marks the
run.
-/

namespace Repricing

open Json (AllFinite FiniteFloats Floats Lossless NoFloats allFinite encode encode_inj finiteFloats
  floats)

/-! ## Candidates -/

theorem MatchFields.ofList_toList (fields : MatchFields) : ofList fields.toList = fields := by
  rcases fields with ⟨_ | _, _ | _, _ | _, _ | _⟩ <;> rfl

instance : Floats MatchFields := ⟨fun _ => []⟩

instance : NoFloats MatchFields := ⟨fun _ => rfl⟩

instance : Lossless MatchFields where
  finiteFloats fields := finiteFloats fields.toList
  encode_inj {a b} _ _ heq := by
    have hlist : a.toList = b.toList := encode_inj (allFinite _) (allFinite _) heq
    rw [← a.ofList_toList, hlist, b.ofList_toList]

instance : Floats Candidate := ⟨fun c => c.confidence :: floats c.entry⟩

theorem Candidate.allFinite_iff {c : Candidate} :
    AllFinite c ↔ AllFinite c.confidence ∧ AllFinite c.entry := by
  simp [AllFinite, floats]

instance : Lossless Candidate where
  finiteFloats _ := .obj (by simp [finiteFloats])
  encode_inj {a b} ha hb heq := by
    obtain ⟨hconfidence, hentry⟩ := Candidate.allFinite_iff.mp ha
    obtain ⟨hconfidence', hentry'⟩ := Candidate.allFinite_iff.mp hb
    have hentries := Json.obj.inj heq
    simp only [List.cons.injEq, Prod.mk.injEq, true_and, and_true] at hentries
    obtain ⟨h1, h2, h3⟩ := hentries
    cases a
    cases b
    rw [Candidate.mk.injEq]
    exact ⟨encode_inj hentry hentry' h1, encode_inj hconfidence hconfidence' h2,
      encode_inj (allFinite _) (allFinite _) h3⟩

/-! ## Decisions -/

instance : Floats ReviewReason := ⟨fun _ => []⟩

instance : NoFloats ReviewReason := ⟨fun _ => rfl⟩

instance : Lossless ReviewReason where
  finiteFloats reason := by cases reason <;> exact .str _
  encode_inj {a b} _ _ heq := by
    cases a <;> cases b <;> first | rfl | exact absurd (Json.str.inj heq) (by decide)

instance : Floats RejectReason := ⟨fun _ => []⟩

instance : NoFloats RejectReason := ⟨fun _ => rfl⟩

instance : Lossless RejectReason where
  finiteFloats reason := by cases reason <;> exact .str _
  encode_inj {a b} _ _ heq := by
    cases a <;> cases b <;> first | rfl | exact absurd (Json.str.inj heq) (by decide)

instance : Floats DecisionKind := ⟨fun _ => []⟩

instance : NoFloats DecisionKind := ⟨fun _ => rfl⟩

instance : Lossless DecisionKind where
  finiteFloats kind := by cases kind <;> exact .str _
  encode_inj {a b} _ _ heq := by
    cases a <;> cases b <;> first | rfl | exact absurd (Json.str.inj heq) (by decide)

instance : Floats Decision where
  floats
    | .autoApplied entry oldPrice newPrice confidence _ _ =>
      confidence :: (floats entry ++ floats oldPrice ++ floats newPrice)
    | .pendingReview _ candidates confidence proposedPrice =>
      confidence :: (floats candidates ++ floats proposedPrice)
    | .rejected _ bestConfidence => floats bestConfidence

/-- The kind of a decision stands first in its form. -/
theorem Decision.get?_kind (decision : Decision) :
    (encode decision).get? "kind" = some (encode decision.kind) := by
  cases decision <;> rfl

theorem Decision.kind_eq {a b : Decision} (heq : encode a = encode b) : a.kind = b.kind := by
  have hkind := a.get?_kind
  rw [heq, b.get?_kind] at hkind
  exact encode_inj (allFinite _) (allFinite _) (Option.some.inj hkind).symm

section Decisions

variable {entry entry' : CatalogEntry} {oldPrice oldPrice' newPrice newPrice' : Money}
  {confidence confidence' : Float} {changed applied : Bool} {reason : ReviewReason}
  {candidates : List Candidate}

theorem Decision.allFinite_autoApplied :
    AllFinite (Decision.autoApplied entry oldPrice newPrice confidence changed applied) ↔
      AllFinite confidence ∧ AllFinite entry ∧ AllFinite oldPrice ∧ AllFinite newPrice := by
  simp [AllFinite, floats, or_imp, forall_and]

theorem Decision.allFinite_pendingReview :
    AllFinite (Decision.pendingReview reason candidates confidence newPrice) ↔
      AllFinite confidence ∧ AllFinite candidates ∧ AllFinite newPrice := by
  simp [AllFinite, floats, or_imp, forall_and]

end Decisions

instance : Lossless Decision where
  finiteFloats decision := by
    cases decision <;> exact .obj (by simp [finiteFloats])
  encode_inj {a b} ha hb heq := by
    have hkind := Decision.kind_eq heq
    cases a with
    | autoApplied entry oldPrice newPrice confidence changed applied =>
        cases b <;> cases hkind
        obtain ⟨hconfidence, hentry, hold, hnew⟩ := Decision.allFinite_autoApplied.mp ha
        obtain ⟨hconfidence', hentry', hold', hnew'⟩ := Decision.allFinite_autoApplied.mp hb
        have hentries := Json.obj.inj heq
        simp only [List.cons.injEq, Prod.mk.injEq, true_and, and_true] at hentries
        obtain ⟨h1, h2, h3, h4, h5, h6⟩ := hentries
        rw [Decision.autoApplied.injEq]
        exact ⟨encode_inj hentry hentry' h1, encode_inj hold hold' h2, encode_inj hnew hnew' h3,
          encode_inj hconfidence hconfidence' h4, encode_inj (allFinite _) (allFinite _) h5,
          encode_inj (allFinite _) (allFinite _) h6⟩
    | pendingReview reason candidates confidence proposedPrice =>
        cases b <;> cases hkind
        obtain ⟨hconfidence, hcandidates, hprice⟩ := Decision.allFinite_pendingReview.mp ha
        obtain ⟨hconfidence', hcandidates', hprice'⟩ := Decision.allFinite_pendingReview.mp hb
        have hentries := Json.obj.inj heq
        simp only [List.cons.injEq, Prod.mk.injEq, true_and, and_true] at hentries
        obtain ⟨h1, h2, h3, h4⟩ := hentries
        rw [Decision.pendingReview.injEq]
        exact ⟨encode_inj (allFinite _) (allFinite _) h1, encode_inj hcandidates hcandidates' h2,
          encode_inj hconfidence hconfidence' h3, encode_inj hprice hprice' h4⟩
    | rejected reason bestConfidence =>
        cases b <;> cases hkind
        have hentries := Json.obj.inj heq
        simp only [List.cons.injEq, Prod.mk.injEq, true_and, and_true] at hentries
        obtain ⟨h1, h2⟩ := hentries
        rw [Decision.rejected.injEq]
        exact ⟨encode_inj (allFinite _) (allFinite _) h1, encode_inj ha hb h2⟩

/-! ## Records and changes -/

instance : Floats DecisionRecord := ⟨fun record => floats record.item ++ floats record.decision⟩

theorem DecisionRecord.allFinite_iff {record : DecisionRecord} :
    AllFinite record ↔ AllFinite record.item ∧ AllFinite record.decision := by
  simp [AllFinite, floats, or_imp, forall_and]

instance : Lossless DecisionRecord where
  finiteFloats _ := .obj (by simp [finiteFloats])
  encode_inj {a b} ha hb heq := by
    obtain ⟨hitem, hdecision⟩ := DecisionRecord.allFinite_iff.mp ha
    obtain ⟨hitem', hdecision'⟩ := DecisionRecord.allFinite_iff.mp hb
    have hentries := Json.obj.inj heq
    simp only [List.cons.injEq, Prod.mk.injEq, true_and, and_true] at hentries
    obtain ⟨h1, h2, h3⟩ := hentries
    cases a
    cases b
    rw [DecisionRecord.mk.injEq]
    exact ⟨encode_inj (allFinite _) (allFinite _) h1, encode_inj hitem hitem' h2,
      encode_inj hdecision hdecision' h3⟩

instance : Floats PriceChange := ⟨fun change => floats change.old ++ floats change.new⟩

theorem PriceChange.allFinite_iff {change : PriceChange} :
    AllFinite change ↔ AllFinite change.old ∧ AllFinite change.new := by
  simp [AllFinite, floats, or_imp, forall_and]

instance : Lossless PriceChange where
  finiteFloats _ := .obj (by simp [finiteFloats])
  encode_inj {a b} ha hb heq := by
    obtain ⟨hold, hnew⟩ := PriceChange.allFinite_iff.mp ha
    obtain ⟨hold', hnew'⟩ := PriceChange.allFinite_iff.mp hb
    have hentries := Json.obj.inj heq
    simp only [List.cons.injEq, Prod.mk.injEq, true_and, and_true] at hentries
    obtain ⟨h1, h2, h3, h4, h5⟩ := hentries
    cases a
    cases b
    rw [PriceChange.mk.injEq]
    exact ⟨encode_inj (allFinite _) (allFinite _) h1, encode_inj (allFinite _) (allFinite _) h2,
      encode_inj hold hold' h3, encode_inj hnew hnew' h4, encode_inj (allFinite _) (allFinite _) h5⟩

/-! ## Reports -/

namespace ImportReport

variable {report other : ImportReport} {stamp stamp' : RunStamp}

/-- The doubles of a report are amounts and confidences. -/
instance : Floats ImportReport :=
  ⟨fun report => floats report.decisions.toList ++ floats report.priceChanges.toList⟩

theorem allFinite_iff :
    AllFinite report ↔
      AllFinite report.decisions.toList ∧ AllFinite report.priceChanges.toList := by
  simp [AllFinite, floats, or_imp, forall_and]

theorem eq_of_entries_eq
    (hreport : AllFinite report) (hother : AllFinite other) (heq : report.entries = other.entries) :
    report = other := by
  obtain ⟨hdecisions, hchanges⟩ := allFinite_iff.mp hreport
  obtain ⟨hdecisions', hchanges'⟩ := allFinite_iff.mp hother
  simp only [entries, List.cons.injEq, Prod.mk.injEq, true_and, and_true] at heq
  obtain ⟨h1, h2, h3, h4, h5, h6, h7, h8, h9, h10, h11⟩ := heq
  cases report
  cases other
  rw [mk.injEq]
  exact ⟨encode_inj (allFinite _) (allFinite _) h1, encode_inj (allFinite _) (allFinite _) h2,
    encode_inj (allFinite _) (allFinite _) h3, encode_inj (allFinite _) (allFinite _) h4,
    encode_inj (allFinite _) (allFinite _) h5, encode_inj (allFinite _) (allFinite _) h6,
    encode_inj (allFinite _) (allFinite _) h7, encode_inj (allFinite _) (allFinite _) h8,
    Array.toList_inj.mp (encode_inj (allFinite _) (allFinite _) h9),
    Array.toList_inj.mp (encode_inj hdecisions hdecisions' h10),
    Array.toList_inj.mp (encode_inj hchanges hchanges' h11)⟩

theorem finiteFloats_stamped (report : ImportReport) (stamp : RunStamp) :
    FiniteFloats (report.stamped stamp) :=
  .obj (by simp [entries, finiteFloats, FiniteFloats.str])

/-- Two reports with finite amounts and confidences have one document only if they are the same,
whatever their texts are, and the marks of their runs are the same. So if equal marks are put in
place of these, nothing else of the reports differs. -/
theorem document_eq_iff (hreport : AllFinite report) (hother : AllFinite other) :
    report.document stamp = other.document stamp' ↔ report = other ∧ stamp = stamp' := by
  constructor
  · intro heq
    have hstamped := Json.pretty_inj (finiteFloats_stamped report stamp)
      (finiteFloats_stamped other stamp') heq
    have hentries := Json.obj.inj hstamped
    simp only [List.cons.injEq, Prod.mk.injEq, true_and, Json.str.injEq] at hentries
    obtain ⟨hid, hstarted, hfinished, hentries⟩ := hentries
    refine ⟨eq_of_entries_eq hreport hother hentries, ?_⟩
    cases stamp
    cases stamp'
    rw [RunStamp.mk.injEq]
    exact ⟨hid, hstarted, hfinished⟩
  · rintro ⟨rfl, rfl⟩
    rfl

/-- A report of one error and one change, from a price to another one. -/
def changeReport (message : String) (old new : Float) : ImportReport :=
  { cancelled := false
    dryRun := false
    total := 2
    autoApplied := 1
    errors := 1
    rowErrors := #[{ row := 1, kind := .malformedRow, message }]
    priceChanges := #[{
      row := 2
      entry := ⟨42⟩
      old := { amount := old, currency := Currency.rub }
      new := { amount := new, currency := Currency.rub }
      applied := true }] }

/-- Neither the signs of zeros nor a message that looks like part of the document is lost. -/
theorem document_eq_iff_sample :
    AllFinite (changeReport "row \"2\"" 0.0 0.1) ∧ AllFinite (changeReport "row \"2\"" (-0.0) 0.1) ∧
      AllFinite (changeReport "row \\\"2\\\"" 0.0 0.1) ∧
      (changeReport "row \"2\"" 0.0 0.1).document ⟨"", "", ""⟩ ≠
        (changeReport "row \"2\"" (-0.0) 0.1).document ⟨"", "", ""⟩ ∧
      (changeReport "row \"2\"" 0.0 0.1).document ⟨"", "", ""⟩ ≠
        (changeReport "row \\\"2\\\"" 0.0 0.1).document ⟨"", "", ""⟩ := by
  have hplus : AllFinite (changeReport "row \"2\"" 0.0 0.1) := by decide
  have hminus : AllFinite (changeReport "row \"2\"" (-0.0) 0.1) := by decide
  have hescaped : AllFinite (changeReport "row \\\"2\\\"" 0.0 0.1) := by decide
  refine ⟨hplus, hminus, hescaped, ?_, ?_⟩
  · intro heq
    exact absurd ((document_eq_iff hplus hminus).mp heq).1 (by decide)
  · intro heq
    exact absurd ((document_eq_iff hplus hescaped).mp heq).1 (by decide)

end ImportReport

end Repricing

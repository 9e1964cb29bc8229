import Mathlib.Data.Finset.Dedup
import Mathlib.Data.Finset.Card
import Repricing.Proofs.Import.Accepted
import Repricing.Proofs.Matching.Postings

/-!
# Lookups by tokens

A lookup by tokens finds what a look through all entries finds: those that share tokens with the
query, the ones that share most of them first, and of these the ones with the lowest identifiers.
-/

namespace Repricing

/-! ## Looking through all entries -/

/-- The distinct tokens of a title key and an author key. -/
def distinctTokens (title author : String) : Finset String :=
  (Text.tokens title ++ Text.tokens author).toFinset

/-- How many distinct tokens an entry shares with a title key and an author key. -/
def sharedTokens (title author : String) (entry : CatalogEntry) : Nat :=
  let keys := MatchKeys.ofEntry entry
  (distinctTokens title author ∩ distinctTokens keys.title keys.author).card

/-- Whether an entry comes no later than another: by the greater number of shared tokens, then by
the lower identifier. -/
def sharesMore (title author : String) (a b : CatalogEntry) : Bool :=
  sharedTokens title author b < sharedTokens title author a
    || (sharedTokens title author b == sharedTokens title author a && a.id.val ≤ b.id.val)

/-- The entries that share tokens with a title key and an author key, at most `k` of them. -/
def scanTokens (entries : List CatalogEntry) (title author : String) (k : Nat) :
    List CatalogEntry :=
  ((entries.filter fun entry => 0 < sharedTokens title author entry).mergeSort
    (sharesMore title author)).take k

variable {title author : String}

theorem toFinset_tokenSet (title author : String) :
    (Postings.tokenSet title author).toFinset = distinctTokens title author := by
  ext token
  rw [List.mem_toFinset, Postings.mem_tokenSet, distinctTokens, List.mem_toFinset]

/-- The tokens of a query that an entry has are those that it shares with the query. -/
theorem shared_ofEntry (title author : String) (entry : CatalogEntry) :
    Postings.shared (Postings.tokenSet title author) (MatchKeys.ofEntry entry) =
      sharedTokens title author entry := by
  have hnodup := (Postings.nodup_tokenSet title author).filter fun token =>
    token ∈ Postings.tokenSet (MatchKeys.ofEntry entry).title (MatchKeys.ofEntry entry).author
  have htokens : ((Postings.tokenSet title author).filter fun token =>
      token ∈ Postings.tokenSet (MatchKeys.ofEntry entry).title
        (MatchKeys.ofEntry entry).author).toFinset =
          distinctTokens title author ∩
            distinctTokens (MatchKeys.ofEntry entry).title (MatchKeys.ofEntry entry).author := by
    ext token
    simp [← toFinset_tokenSet]
  rw [Postings.shared, List.countP_eq_length_filter, ← List.toFinset_card_of_nodup hnodup, htokens,
    sharedTokens]

theorem sharedTokens_le (title author : String) (entry : CatalogEntry) :
    sharedTokens title author entry ≤ (distinctTokens title author).card :=
  Finset.card_le_card Finset.inter_subset_left

/-! ## Sorted lists -/

/-- There is one way to sort a list by an order in which no two of its items are alike. -/
theorem eq_mergeSort_of_perm
    {α : Type} {le : α → α → Bool} {xs ys : List α}
    (htrans : ∀ a b c, le a b = true → le b c = true → le a c = true)
    (htotal : ∀ a b, (le a b || le b a) = true)
    (hantisymm : ∀ a ∈ xs, ∀ b ∈ xs, le a b = true → le b a = true → a = b)
    (hperm : xs.Perm ys) (hsorted : xs.Pairwise fun a b => le a b = true) :
    xs = ys.mergeSort le := by
  have hsort : xs.Perm (ys.mergeSort le) := hperm.trans (List.mergeSort_perm ys le).symm
  apply List.Perm.eq_of_pairwise _ hsorted (List.pairwise_mergeSort htrans htotal ys) hsort
  intro a b ha hb
  exact hantisymm a ha b (hsort.mem_iff.mpr hb)

theorem sharesMore_trans (title author : String) (a b c : CatalogEntry)
    (hab : sharesMore title author a b = true) (hbc : sharesMore title author b c = true) :
    sharesMore title author a c = true := by
  simp only [sharesMore, Bool.or_eq_true, Bool.and_eq_true, decide_eq_true_eq, beq_iff_eq,
    UInt64.le_iff_toNat_le] at *
  omega

theorem sharesMore_total (title author : String) (a b : CatalogEntry) :
    (sharesMore title author a b || sharesMore title author b a) = true := by
  simp only [sharesMore, Bool.or_eq_true, Bool.and_eq_true, decide_eq_true_eq, beq_iff_eq,
    UInt64.le_iff_toNat_le]
  omega

namespace CandidateIndex

theorem overlapBefore_trans (a b c : Nat × UInt32)
    (hab : overlapBefore a b = true) (hbc : overlapBefore b c = true) :
    overlapBefore a c = true := by
  simp only [overlapBefore, Bool.or_eq_true, Bool.and_eq_true, decide_eq_true_eq, beq_iff_eq,
    UInt32.lt_iff_toNat_lt, ← UInt32.toNat_inj] at *
  omega

theorem overlapBefore_total (a b : Nat × UInt32) :
    (overlapBefore a b || overlapBefore b a) = true := by
  simp only [overlapBefore, Bool.or_eq_true, Bool.and_eq_true, decide_eq_true_eq, beq_iff_eq,
    UInt32.lt_iff_toNat_lt, ← UInt32.toNat_inj]
  omega

theorem eq_of_overlapBefore
    {a b : Nat × UInt32} (hab : overlapBefore a b = true) (hba : overlapBefore b a = true) :
    a = b := by
  simp only [overlapBefore, Bool.or_eq_true, Bool.and_eq_true, decide_eq_true_eq, beq_iff_eq,
    UInt32.lt_iff_toNat_lt, ← UInt32.toNat_inj] at hab hba
  exact Prod.ext (by omega) (UInt32.toNat_inj.mp (by omega))

/-! ## Slots and their entries -/

/-- The entries that share tokens with a title key and an author key, with their slots. -/
def sharing (c : Catalog) (title author : String) : List (CatalogEntry × Nat) :=
  c.entries.toList.zipIdx.filter fun placed => 0 < sharedTokens title author placed.1

/-- Whether an entry comes no later than another: by the greater number of shared tokens, then by
the lower slot. -/
def placedBefore (title author : String) (a b : CatalogEntry × Nat) : Bool :=
  sharedTokens title author b.1 < sharedTokens title author a.1
    || (sharedTokens title author b.1 == sharedTokens title author a.1 && a.2 ≤ b.2)

/-- The entries that share tokens, the ones that share most of them first. -/
def rankedSharing (c : Catalog) (title author : String) : List (CatalogEntry × Nat) :=
  (sharing c title author).mergeSort (placedBefore title author)

/-- A slot with the number of tokens that its entry shares. -/
def counted (title author : String) (placed : CatalogEntry × Nat) : Nat × UInt32 :=
  (placed.2, UInt32.ofNat (sharedTokens title author placed.1))

theorem map_fst_counted (title author : String) (placed : List (CatalogEntry × Nat)) :
    (placed.map (counted title author)).map (·.1) = placed.map (·.2) := by
  rw [List.map_map]
  exact List.map_congr_left fun _ _ => rfl

variable {index : CandidateIndex} {c : Catalog} {placed : CatalogEntry × Nat}

theorem entry_of_mem_sharing (hplaced : placed ∈ sharing c title author) :
    c.entries[placed.2]? = some placed.1 := by
  have hmem := List.mem_zipIdx_iff_getElem?.mp (List.mem_filter.mp hplaced).1
  rwa [Array.getElem?_toList] at hmem

theorem mem_rankedSharing :
    placed ∈ rankedSharing c title author ↔ placed ∈ sharing c title author :=
  List.mem_mergeSort

/-- The postings count the shared tokens of all entries that share any. -/
theorem overlaps_perm (hindex : index.Reachable) (title author : String) :
    (index.postings.overlaps (Postings.tokenSet title author)).toList.Perm
      ((sharing index.catalog title author).map (counted title author)) := by
  have hperm := Postings.toList_overlaps_perm (index.catalog.entries.toList.map MatchKeys.ofEntry)
    (Postings.tokenSet title author)
  rw [List.zipIdx_map, List.filter_map, List.map_map] at hperm
  rw [hindex.postings_eq, hindex.keys_eq, Array.toList_map]
  simp only [Function.comp_def, Prod.map, id, shared_ofEntry] at hperm
  exact hperm

/-- With numbers of tokens that fit, slots are ranked as their entries are. -/
theorem map_counted_rankedSharing
    (c : Catalog) (hfew : (distinctTokens title author).card < 2 ^ 32) :
    (rankedSharing c title author).map (counted title author) =
      ((sharing c title author).map (counted title author)).mergeSort overlapBefore := by
  have hfits : ∀ entry, (UInt32.ofNat (sharedTokens title author entry)).toNat =
      sharedTokens title author entry := fun entry =>
    UInt32.toNat_ofNat_of_lt' ((sharedTokens_le title author entry).trans_lt hfew)
  apply List.map_mergeSort
  intro a _ b _
  rw [Bool.eq_iff_iff, counted, counted]
  simp only [placedBefore, overlapBefore, Bool.or_eq_true, Bool.and_eq_true, decide_eq_true_eq,
    beq_iff_eq, UInt32.lt_iff_toNat_lt, ← UInt32.toNat_inj, hfits]

/-- Whatever the order in which slots are counted, and however they are sorted, the same slots
come first. -/
theorem eq_map_counted_of_perm
    (hindex : index.Reachable) (hfew : (distinctTokens title author).card < 2 ^ 32)
    {ranked : List (Nat × UInt32)}
    (hperm : ranked.Perm (index.postings.overlaps (Postings.tokenSet title author)).toList)
    (hsorted : ranked.Pairwise fun a b => overlapBefore a b = true) :
    ranked = (rankedSharing index.catalog title author).map (counted title author) := by
  rw [map_counted_rankedSharing index.catalog hfew]
  exact eq_mergeSort_of_perm overlapBefore_trans overlapBefore_total
    (fun a _ b _ => eq_of_overlapBefore) (hperm.trans (overlaps_perm hindex title author)) hsorted

theorem tokenSlots_eq
    (hindex : index.Reachable) (hfew : (distinctTokens title author).card < 2 ^ 32) (k : UInt64) :
    index.tokenSlots title author k =
      ((rankedSharing index.catalog title author).take k.toNat).map (·.2) := by
  have hsorted := List.pairwise_mergeSort overlapBefore_trans overlapBefore_total
    (index.postings.overlaps (Postings.tokenSet title author)).toList
  rw [tokenSlots, stableSort_eq_mergeSort,
    eq_map_counted_of_perm hindex hfew (List.mergeSort_perm _ _) hsorted, ← List.map_take,
    map_fst_counted]

theorem map_fst_rankedSharing (c : Catalog) (title author : String) :
    (rankedSharing c title author).map (·.1) =
      (c.entries.toList.filter fun entry => 0 < sharedTokens title author entry).mergeSort
        (sharesMore title author) := by
  have hsharing : (sharing c title author).map (·.1) =
      c.entries.toList.filter fun entry => 0 < sharedTokens title author entry := by
    conv_rhs => rw [← List.zipIdx_map_fst 0 c.entries.toList, List.filter_map]
    rfl
  rw [← hsharing]
  apply List.map_mergeSort
  intro a ha b hb
  have hslots := Catalog.slot_le_iff_id_le (entry_of_mem_sharing ha) (entry_of_mem_sharing hb)
  simp only [placedBefore, sharesMore, hslots]

/-- No two entries of a catalog rank alike. -/
theorem eq_of_sharesMore
    {a b : CatalogEntry} (ha : a ∈ c.entries.toList) (hb : b ∈ c.entries.toList)
    (hab : sharesMore title author a b = true) (hba : sharesMore title author b a = true) :
    a = b := by
  have hid : a.id.val = b.id.val := by
    simp only [sharesMore, Bool.or_eq_true, Bool.and_eq_true, decide_eq_true_eq, beq_iff_eq,
      UInt64.le_iff_toNat_le] at hab hba
    exact UInt64.toNat_inj.mp (by omega)
  obtain ⟨i, hi⟩ := List.mem_iff_getElem?.mp ha
  obtain ⟨j, hj⟩ := List.mem_iff_getElem?.mp hb
  rw [Array.getElem?_toList] at hi hj
  have hslot : i = j := Catalog.slot_unique hi hj (congrArg CatalogId.mk hid)
  rw [hslot, hj] at hi
  exact (Option.some.inj hi).symm

/-- A look through a snapshot finds the entries at the ranked slots. -/
theorem scanTokens_eq
    {entries : List CatalogEntry} (hentries : c.entries.toList.Perm entries)
    (title author : String) (k : Nat) :
    scanTokens entries title author k =
      ((rankedSharing c title author).take k).map (·.1) := by
  rw [scanTokens, List.map_take, map_fst_rankedSharing]
  congr 1
  symm
  apply eq_mergeSort_of_perm (sharesMore_trans title author) (sharesMore_total title author)
  · intro a ha b hb
    rw [List.mem_mergeSort] at ha hb
    exact eq_of_sharesMore (List.mem_filter.mp ha).1 (List.mem_filter.mp hb).1
  · exact (List.mergeSort_perm _ _).trans (hentries.filter _)
  · exact List.pairwise_mergeSort (sharesMore_trans title author) (sharesMore_total title author) _

/-- The slots of a lookup are slots of the entries that it finds. -/
theorem map_entryAt?_tokenSlots
    (hindex : index.Reachable) (hfew : (distinctTokens title author).card < 2 ^ 32) (k : UInt64) :
    (index.tokenSlots title author k).map index.catalog.entryAt? =
      (((rankedSharing index.catalog title author).take k.toNat).map (·.1)).map some := by
  rw [tokenSlots_eq hindex hfew, List.map_map, List.map_map]
  apply List.map_congr_left
  intro placed hplaced
  exact entry_of_mem_sharing (mem_rankedSharing.mp (List.mem_of_mem_take hplaced))

theorem findTokensTop_eq
    (hindex : index.Reachable) (hfew : (distinctTokens title author).card < 2 ^ 32) (k : UInt64) :
    index.findTokensTop title author k =
      ((rankedSharing index.catalog title author).take k.toNat).map (·.1) := by
  calc index.findTokensTop title author k
    _ = ((index.tokenSlots title author k).map index.catalog.entryAt?).filterMap id := by
      rw [List.filterMap_map]
      rfl
    _ = ((rankedSharing index.catalog title author).take k.toNat).map (·.1) := by
      rw [map_entryAt?_tokenSlots hindex hfew, List.filterMap_map]
      exact List.filterMap_some

/-- What a lookup by tokens returns is what a look through the snapshot finds, whatever the order in
which slots are counted and however those with equal numbers are sorted. -/
theorem findTokensTop_eq_scanTokens
    {entries : List CatalogEntry} {topK : UInt64} (hbuild : build entries topK = .ok index)
    (hfew : (distinctTokens title author).card < 2 ^ 32) (k : UInt64) :
    let slots := index.tokenSlots title author k
    index.findTokensTop title author k = scanTokens entries title author k.toNat ∧
    index.findTokens title author = scanTokens entries title author topK.toNat ∧
    slots.map index.catalog.entryAt? = (scanTokens entries title author k.toNat).map some ∧
    slots.Nodup ∧
    (∀ slot ∈ slots, slot < index.size) ∧
    ∀ ranked : List (Nat × UInt32),
      ranked.Perm (index.postings.overlaps (Postings.tokenSet title author)).toList →
      ranked.Pairwise (fun a b => overlapBefore a b = true) →
      (ranked.take k.toNat).map (·.1) = slots := by
  have hindex : index.Reachable := .built hbuild
  obtain ⟨-, catalog, hcatalog, -, hcopy⟩ := build_eq_ok_iff.mp hbuild
  have htopK : index.topK = topK := by rw [← hcopy, ofCatalog]
  have hentries : index.catalog.entries.toList.Perm entries := by
    rw [← hcopy]
    exact Catalog.entries_perm_of_ofEntries hcatalog
  have hscan := scanTokens_eq hentries title author
  refine ⟨?_, ?_, ?_, index.nodup_tokenSlots title author k, ?_, ?_⟩
  · rw [findTokensTop_eq hindex hfew, hscan]
  · rw [findTokens, findTokensTop_eq hindex hfew, hscan, htopK]
  · rw [map_entryAt?_tokenSlots hindex hfew, hscan]
  · intro slot hslot
    rw [tokenSlots_eq hindex hfew] at hslot
    obtain ⟨placed, hplaced, rfl⟩ := List.mem_map.mp hslot
    have hentry := entry_of_mem_sharing (mem_rankedSharing.mp (List.mem_of_mem_take hplaced))
    exact (Array.getElem?_eq_some_iff.mp hentry).1
  · intro ranked hperm hsorted
    rw [eq_map_counted_of_perm hindex hfew hperm hsorted, ← List.map_take, map_fst_counted,
      tokenSlots_eq hindex hfew]

/-- Both sample entries share two tokens with a query that has one of them twice; the one with the
lower identifier comes first. -/
theorem findTokensTop_eq_scanTokens_sample :
    ∃ index, build sampleEntries 20 = .ok index ∧
      (distinctTokens "crime and peace and" "").card < 2 ^ 32 ∧
      index.findTokensTop "crime and peace and" "" 2 =
        scanTokens sampleEntries "crime and peace and" "" 2 ∧
      (scanTokens sampleEntries "crime and peace and" "" 2).map (·.id) = [⟨42⟩, ⟨43⟩] := by
  obtain ⟨index, hbuild⟩ := exists_build_sampleEntries
  have hfew : (distinctTokens "crime and peace and" "").card < 2 ^ 32 := by decide +kernel
  obtain ⟨hfound, -⟩ := findTokensTop_eq_scanTokens hbuild hfew 2
  have hids : ((build sampleEntries 20).map fun index =>
      (index.findTokensTop "crime and peace and" "" 2).map (·.id)) = .ok [⟨42⟩, ⟨43⟩] := by
    decide +kernel
  rw [hbuild, Except.map, hfound] at hids
  exact ⟨index, hbuild, hfew, hfound, Except.ok.inj hids⟩

end CandidateIndex

end Repricing

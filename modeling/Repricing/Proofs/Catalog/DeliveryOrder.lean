import Mathlib.Data.List.Duplicate
import Repricing.Matching.Index
import Repricing.Proofs.Catalog.Snapshot

/-!
# Snapshots in any order

The entries of a snapshot make up a catalog exactly if no two of them share an identifier.  If some
do, the fault names the lowest identifier that is shared.  Both follow from the order in which the
entries are sorted, and so the order in which they were delivered shows neither in the catalog, nor
in an index of it, nor in the fault.
-/

namespace Repricing

variable {entries others : List CatalogEntry} {id : CatalogId}

/-! ## Repeated identifiers -/

/-- The lowest of the identifiers that occur more than once. -/
structure LeastRepeated (ids : List CatalogId) (id : CatalogId) : Prop where
  repeated : ids.Duplicate id
  least : ∀ other, ids.Duplicate other → id.val ≤ other.val

theorem LeastRepeated.unique
    {ids : List CatalogId} {a b : CatalogId} (ha : LeastRepeated ids a)
    (hb : LeastRepeated ids b) :
    a = b :=
  congrArg CatalogId.mk (UInt64.le_antisymm (ha.least b hb.repeated) (hb.least a ha.repeated))

theorem LeastRepeated.of_perm
    {ids ids' : List CatalogId} (hperm : ids.Perm ids') (hleast : LeastRepeated ids id) :
    LeastRepeated ids' id := by
  have hsame : ∀ other, ids.Duplicate other ↔ ids'.Duplicate other := by
    intro other
    rw [List.duplicate_iff_two_le_count, List.duplicate_iff_two_le_count, hperm.count_eq]
  exact ⟨(hsame id).mp hleast.repeated, fun other hother =>
    hleast.least other ((hsame other).mpr hother)⟩

/-- Among sorted entries, the first one that does not ascend has the lowest repeated identifier. -/
theorem leastRepeated_of_firstRepeat?
    (hsorted : entries.Pairwise fun a b => a.id.val ≤ b.id.val)
    (hrepeat : firstRepeat? entries = some id) :
    LeastRepeated (entries.map (·.id)) id := by
  fun_induction firstRepeat? entries with
  | case1 a b rest hlt ih =>
      obtain ⟨hrepeated, hleast⟩ := ih hsorted.of_cons hrepeat
      refine ⟨hrepeated.cons_duplicate, ?_⟩
      intro other hother
      rcases List.duplicate_cons_iff.mp hother with ⟨rfl, hmem⟩ | hlater
      · -- The first entry is below the second one, and so below all others.
        obtain ⟨entry, hentry, hid⟩ := List.mem_map.mp hmem
        have hle : b.id.val ≤ entry.id.val := by
          rcases List.mem_cons.mp hentry with rfl | hrest
          · exact UInt64.le_refl _
          · exact List.rel_of_pairwise_cons hsorted.of_cons hrest
        rw [hid] at hle
        exact absurd hlt (UInt64.not_lt.mpr hle)
      · exact hleast other hlater
  | case2 a b rest hnot =>
      obtain rfl := Option.some.inj hrepeat
      have hsame : a.id = b.id :=
        congrArg CatalogId.mk (UInt64.le_antisymm
          (List.rel_of_pairwise_cons hsorted List.mem_cons_self) (UInt64.not_lt.mp hnot))
      refine ⟨List.duplicate_cons_iff.mpr (.inl ⟨hsame, by simp⟩), ?_⟩
      intro other hother
      obtain ⟨entry, hentry, rfl⟩ := List.mem_map.mp hother.mem
      rw [← hsame]
      rcases List.mem_cons.mp hentry with rfl | hlater
      · exact UInt64.le_refl _
      · exact List.rel_of_pairwise_cons hsorted hlater
  | case3 => cases hrepeat

/-! ## Catalogs and faults -/

namespace Catalog

variable {c : Catalog}

theorem leastRepeated_of_ofEntries
    {e : EngineError} (hfault : ofEntries entries = .error e) :
    ∃ id, LeastRepeated (entries.map (·.id)) id ∧ e = .validation (.repeatedId id) := by
  unfold ofEntries at hfault
  dsimp only at hfault
  split at hfault
  · next id hrepeat =>
      cases hfault
      have hleast := leastRepeated_of_firstRepeat? (pairwise_sortedById entries) hrepeat
      exact ⟨id, hleast.of_perm ((sortedById_perm entries).map _), rfl⟩
  · cases hfault

theorem pairwise_entries (c : Catalog) :
    c.entries.toList.Pairwise fun a b => a.id.val < b.id.val :=
  (firstRepeat?_eq_none_iff _).mp c.ascending

theorem nodup_ids_of_ofEntries (hbuilt : ofEntries entries = .ok c) :
    (entries.map (·.id)).Nodup := by
  have hids : (c.entries.toList.map (·.id)).Nodup := by
    apply List.pairwise_map.mpr
    apply c.pairwise_entries.imp
    intro a b hlt hid
    rw [hid] at hlt
    exact UInt64.lt_irrefl _ hlt
  exact ((entries_perm_of_ofEntries hbuilt).map _).nodup_iff.mp hids

theorem exists_ofEntries_iff :
    (∃ c, ofEntries entries = .ok c) ↔ (entries.map (·.id)).Nodup := by
  constructor
  · rintro ⟨c, hbuilt⟩
    exact nodup_ids_of_ofEntries hbuilt
  · intro hdistinct
    obtain ⟨c, hbuilt, -⟩ := exists_ofEntries hdistinct
    exact ⟨c, hbuilt⟩

/-- A catalog is given by the entries of its snapshot, whatever their order. -/
theorem eq_of_ofEntries_perm
    {d : Catalog} (hc : ofEntries entries = .ok c) (hd : ofEntries others = .ok d)
    (hperm : entries.Perm others) :
    c = d := by
  have hentries : c.entries.toList = d.entries.toList := by
    have hsame : c.entries.toList.Perm d.entries.toList :=
      (entries_perm_of_ofEntries hc).trans (hperm.trans (entries_perm_of_ofEntries hd).symm)
    apply hsame.eq_of_pairwise _ c.pairwise_entries d.pairwise_entries
    intro a b _ _ hab hba
    exact absurd hba (UInt64.lt_asymm hab)
  have hprices : c.prices = d.prices := by
    rw [prices_of_ofEntries hc, prices_of_ofEntries hd, Array.toList_inj.mp hentries]
  obtain ⟨⟩ := c
  obtain ⟨⟩ := d
  obtain rfl := Array.toList_inj.mp hentries
  obtain rfl := hprices
  rfl

/-- The order of the entries shows neither in the catalog nor in the fault. -/
theorem ofEntries_perm (hperm : entries.Perm others) : ofEntries others = ofEntries entries := by
  cases hentries : ofEntries entries with
  | ok c =>
      have hdistinct := (hperm.map (·.id)).nodup_iff.mp (nodup_ids_of_ofEntries hentries)
      obtain ⟨d, hothers⟩ := exists_ofEntries_iff.mpr hdistinct
      rw [hothers, eq_of_ofEntries_perm hentries hothers hperm]
  | error e =>
      obtain ⟨id, hleast, rfl⟩ := leastRepeated_of_ofEntries hentries
      have hleast' := hleast.of_perm (hperm.map (·.id))
      cases hothers : ofEntries others with
      | ok d => exact absurd (nodup_ids_of_ofEntries hothers) hleast'.repeated.not_nodup
      | error e' =>
          obtain ⟨id', hid', rfl⟩ := leastRepeated_of_ofEntries hothers
          rw [hleast'.unique hid']

/-- The catalog holds the entries of the snapshot in ascending order, and finds their identifiers
and no others. -/
structure Holds (c : Catalog) (entries : List CatalogEntry) : Prop where
  perm : c.entries.toList.Perm entries
  ascending : c.entries.toList.Pairwise fun a b => a.id.val < b.id.val
  slotOf_entryAt : ∀ slot entry, c.entryAt? slot = some entry → c.slotOf entry.id = some slot
  slotOf_other : ∀ id, (∀ entry ∈ entries, entry.id ≠ id) → c.slotOf id = none

theorem holds_of_ofEntries (hbuilt : ofEntries entries = .ok c) : c.Holds entries where
  perm := entries_perm_of_ofEntries hbuilt
  ascending := c.pairwise_entries
  slotOf_entryAt _ _ hentry := slotOf_of_entry hentry
  slotOf_other id hother := by
    rw [Option.eq_none_iff_forall_ne_some]
    intro slot hslot
    obtain ⟨entry, hentry, hid⟩ := slotOf_eq_some_iff.mp hslot
    have hmem : entry ∈ c.entries.toList := Array.mem_toList_iff.mpr (Array.mem_of_getElem? hentry)
    exact hother entry ((entries_perm_of_ofEntries hbuilt).mem_iff.mp hmem) hid

/-- Entries make up a catalog exactly if no two of them share an identifier, and otherwise the lowest
identifier that is shared is named.  The order of the entries makes no difference to either, nor to
an index of them. -/
theorem ofEntries_anyOrder (entries : List CatalogEntry) :
    ((∃ c, ofEntries entries = .ok c) ↔ (entries.map (·.id)).Nodup) ∧
    (∀ e, ofEntries entries = .error e →
      ∃ id, LeastRepeated (entries.map (·.id)) id ∧ e = .validation (.repeatedId id) ∧
        e.message =
          "validation failed: " ++ ("duplicate catalog id " ++ id.text ++ " in snapshot")) ∧
    (∀ c, ofEntries entries = .ok c → c.Holds entries) ∧
    ∀ others, entries.Perm others →
      ofEntries others = ofEntries entries ∧
        ∀ topK, CandidateIndex.build others topK = CandidateIndex.build entries topK := by
  refine ⟨exists_ofEntries_iff, ?_, fun _ => holds_of_ofEntries, ?_⟩
  · intro e hfault
    obtain ⟨id, hleast, rfl⟩ := leastRepeated_of_ofEntries hfault
    exact ⟨id, hleast, rfl, rfl⟩
  · intro others hperm
    have hsame := ofEntries_perm hperm
    refine ⟨hsame, ?_⟩
    intro topK
    rw [CandidateIndex.build, CandidateIndex.build, hsame]

/-- A volume of a work. -/
def volume (id : UInt64) : CatalogEntry :=
  { id := ⟨id⟩
    isbn := none
    title := "War and Peace"
    author := "Leo Tolstoy"
    publisher := ""
    price := ⟨750.0, .rub⟩
    publicationYear := none }

/-- Of two shared identifiers the lower one is named, although the higher one comes first; without
the copies, two orders of the volumes make up one index. -/
theorem ofEntries_anyOrder_volumes :
    ofEntries ([7, 3, 7, 3].map volume) = .error (.validation (.repeatedId ⟨3⟩)) ∧
      ∃ c, ofEntries ([7, 3].map volume) = .ok c ∧ c.Holds ([7, 3].map volume) ∧
        c.slotOf ⟨3⟩ = some 0 ∧ ofEntries ([3, 7].map volume) = .ok c ∧
        CandidateIndex.build ([3, 7].map volume) 20 =
          CandidateIndex.build ([7, 3].map volume) 20 := by
  obtain ⟨hshared, hfault, -, -⟩ := ofEntries_anyOrder ([7, 3, 7, 3].map volume)
  obtain ⟨hdistinct, -, hholds, horder⟩ := ofEntries_anyOrder ([7, 3].map volume)
  constructor
  · have hlowest : LeastRepeated (([7, 3, 7, 3].map volume).map (·.id)) ⟨3⟩ := by
      refine ⟨by decide, ?_⟩
      intro other hother
      have hleast : ∀ id ∈ ([7, 3, 7, 3].map volume).map (·.id), 3 ≤ id.val := by decide
      exact hleast other hother.mem
    cases hresult : ofEntries ([7, 3, 7, 3].map volume) with
    | ok c => exact absurd (hshared.mp ⟨c, hresult⟩) (by decide)
    | error e =>
        obtain ⟨id, hleast, rfl, -⟩ := hfault e hresult
        rw [hleast.unique hlowest]
  · obtain ⟨c, hbuilt⟩ := hdistinct.mpr (by decide)
    obtain ⟨hsame, hindex⟩ := horder ([3, 7].map volume) (List.Perm.swap _ _ _)
    have hslot : (ofEntries ([7, 3].map volume)).map (·.slotOf ⟨3⟩) = .ok (some 0) := by
      decide +kernel
    rw [hbuilt] at hslot
    exact ⟨c, hbuilt, hholds c hbuilt, Except.ok.inj hslot, hsame.trans hbuilt, hindex 20⟩

end Catalog

end Repricing

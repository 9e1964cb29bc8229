import Repricing.Proofs.Matching.BareIsbn
import Repricing.Proofs.Matching.Postings
import Repricing.Proofs.Matching.Reachable
import Repricing.Proofs.Matching.Refresh

/-!
# Matches by ISBN

What has an ISBN of the catalog matches the first entry that has it, with full confidence, and
nothing else.
-/

namespace Repricing

/-! ## The entry of an ISBN -/

namespace Catalog

/-- An entry of the catalog has the bare ISBN. -/
def HasIsbn (c : Catalog) (key : String) : Prop :=
  ∃ entry ∈ c.entries, entry.isbn.bind bareIsbn? = some key

/-- The entry, at its current price, is the first in the catalog with the bare ISBN. -/
structure FirstWithIsbn (c : Catalog) (key : String) (entry : CatalogEntry) : Prop where
  current : c.get? entry.id = some entry
  isbn : entry.isbn.bind bareIsbn? = some key
  least : ∀ other ∈ c.entries, other.isbn.bind bareIsbn? = some key → entry.id.val ≤ other.id.val

variable {c d : Catalog} {key : String} {entry other : CatalogEntry}

theorem FirstWithIsbn.exists_original (hfirst : c.FirstWithIsbn key entry) :
    ∃ (slot : Nat) (original : CatalogEntry),
      c.entries[slot]? = some original ∧ original.withPrice entry.price = entry := by
  obtain ⟨slot, -, hcurrent⟩ := get?_eq_some_iff.mp hfirst.current
  obtain ⟨original, price, horiginal, -, rfl⟩ := currentEntryAt?_eq_some_iff.mp hcurrent
  exact ⟨slot, original, horiginal, rfl⟩

theorem FirstWithIsbn.id_le
    (hfirst : c.FirstWithIsbn key entry) (hother : c.FirstWithIsbn key other) :
    entry.id.val ≤ other.id.val := by
  obtain ⟨slot, original, horiginal, heq⟩ := hother.exists_original
  have hisbn := hother.isbn
  rw [← heq] at hisbn ⊢
  exact hfirst.least original (Array.mem_of_getElem? horiginal) hisbn

/-- There is one first entry only. -/
theorem FirstWithIsbn.unique
    (hfirst : c.FirstWithIsbn key entry) (hother : c.FirstWithIsbn key other) :
    entry = other := by
  have hid : entry.id = other.id :=
    congrArg CatalogId.mk (UInt64.le_antisymm (hfirst.id_le hother) (hother.id_le hfirst))
  have hcurrent := hfirst.current
  rw [hid, hother.current] at hcurrent
  exact (Option.some.inj hcurrent).symm

/-- At other prices the first entry is the same one, in the same currency. -/
theorem FirstWithIsbn.of_alike (hfirst : c.FirstWithIsbn key entry) (halike : d.Alike c) :
    ∃ price : Money, price.currency = entry.price.currency ∧
      d.FirstWithIsbn key (entry.withPrice price) := by
  obtain ⟨slot, -, hcurrent⟩ := get?_eq_some_iff.mp hfirst.current
  obtain ⟨original, old, horiginal, hold, rfl⟩ := currentEntryAt?_eq_some_iff.mp hcurrent
  have horiginal' : d.entries[slot]? = some original := by rw [halike.entries_eq, horiginal]
  obtain ⟨price, hprice⟩ := exists_priceAt? horiginal'
  refine ⟨price, halike.currency_eq hprice hold, ?_⟩
  constructor
  · exact (shows_of_entry horiginal' hprice).get?_eq
  · exact hfirst.isbn
  · rw [halike.entries_eq]
    exact hfirst.least

theorem HasIsbn.of_alike (hknown : c.HasIsbn key) (halike : d.Alike c) : d.HasIsbn key := by
  rw [HasIsbn, halike.entries_eq]
  exact hknown

end Catalog

/-- The match by an ISBN. -/
def exactMatch (entry : CatalogEntry) : Candidate :=
  { entry, confidence := 1.0, matchedFields := { isbn := true } }

namespace CandidateIndex

variable {index : CandidateIndex} {keys : MatchKeys} {isbn key : String}

/-- The keys have an ISBN of the catalog, in any spelling. -/
def HitsIsbn (index : CandidateIndex) (keys : MatchKeys) : Prop :=
  ∃ key, keys.isbn.bind bareIsbn? = some key ∧ index.catalog.HasIsbn key

theorem isbnSlot?_eq (hindex : index.Reachable) (hkey : bareIsbn? isbn = some key) :
    index.isbnSlot? isbn =
      index.catalog.entries.toList.findIdx? fun entry => entry.isbn.bind bareIsbn? == some key := by
  rw [isbnSlot?, hkey, Option.bind_some, hindex.postings_eq, Postings.getElem?_byIsbn_ofKeys,
    hindex.keys_eq, Array.toList_map, List.findIdx?_map]
  rfl

/-- An ISBN of the catalog leads to the first entry that has it. -/
theorem exists_exactCandidate
    (hindex : index.Reachable) (hkey : bareIsbn? isbn = some key)
    (hknown : index.catalog.HasIsbn key) :
    ∃ entry, index.catalog.FirstWithIsbn key entry ∧
      index.exactCandidate? isbn = some (exactMatch entry) := by
  have hslot := isbnSlot?_eq hindex hkey
  cases hfirst : index.catalog.entries.toList.findIdx? fun entry =>
      entry.isbn.bind bareIsbn? == some key with
  | none =>
      obtain ⟨entry, hentry, hisbn⟩ := hknown
      have hnot := List.findIdx?_eq_none_iff.mp hfirst entry (Array.mem_toList_iff.mpr hentry)
      exact absurd (beq_iff_eq.mpr hisbn) (Bool.eq_false_iff.mp hnot)
  | some first =>
      obtain ⟨hlt, hmatch, hbefore⟩ := List.findIdx?_eq_some_iff_getElem.mp hfirst
      have hentry : index.catalog.entries[first]? = some index.catalog.entries.toList[first] := by
        rw [← Array.getElem?_toList, List.getElem?_eq_getElem hlt]
      obtain ⟨price, hprice⟩ := Catalog.exists_priceAt? hentry
      have hshows := Catalog.shows_of_entry hentry hprice
      refine ⟨_, ⟨hshows.get?_eq, beq_iff_eq.mp hmatch, ?_⟩, ?_⟩
      · intro other hother hisbn
        obtain ⟨slot, hslot⟩ := Array.getElem?_of_mem hother
        apply (Catalog.slot_le_iff_id_le hentry hslot).mp
        by_contra hcon
        obtain ⟨hlt', rfl⟩ := Array.getElem?_eq_some_iff.mp hslot
        exact hbefore slot (Nat.lt_of_not_le hcon) (beq_iff_eq.mpr hisbn)
      · rw [exactCandidate?_eq, hslot, hfirst, Option.bind_some, candidateAt?,
          hshows.currentEntryAt?_eq]
        rfl

/-- An ISBN that no entry has leads to none. -/
theorem exactCandidate?_eq_none
    (hindex : index.Reachable) (hkey : bareIsbn? isbn = some key)
    (hunknown : ¬ index.catalog.HasIsbn key) :
    index.exactCandidate? isbn = none := by
  have hslot : index.isbnSlot? isbn = none := by
    rw [isbnSlot?_eq hindex hkey, List.findIdx?_eq_none_iff]
    intro other hother
    rw [Bool.eq_false_iff, ne_eq, beq_iff_eq]
    intro hisbn
    exact hunknown ⟨other, Array.mem_toList_iff.mp hother, hisbn⟩
  rw [exactCandidate?_eq, hslot, Option.bind_none]

/-- Keys without an ISBN of the catalog lead to no entry by their ISBN. -/
theorem bind_exactCandidate?_eq_none (hindex : index.Reachable) (hmiss : ¬ index.HitsIsbn keys) :
    keys.isbn.bind index.exactCandidate? = none := by
  rw [Option.bind_eq_none_iff]
  intro isbn hisbn
  cases hkey : bareIsbn? isbn with
  | none => rw [exactCandidate?_eq, isbnSlot?, hkey, Option.bind_none, Option.bind_none]
  | some key =>
      apply exactCandidate?_eq_none hindex hkey
      intro hknown
      exact hmiss ⟨key, by rw [hisbn, Option.bind_some, hkey], hknown⟩

/-- What has an ISBN of the catalog matches the first entry that has it, and no other. -/
theorem matchKeys_of_isbn
    (hindex : index.Reachable) (hkey : bareIsbn? isbn = some key)
    (hknown : index.catalog.HasIsbn key) :
    ∃ entry, index.catalog.FirstWithIsbn key entry ∧
      ∀ (settings : MatchSettings) (keys : MatchKeys) (threshold : Float), keys.isbn = some key →
        index.matchKeys settings keys threshold = [exactMatch entry] := by
  obtain ⟨entry, hfirst, hexact⟩ :=
    exists_exactCandidate hindex (bareIsbn?_of_bareIsbn? hkey) hknown
  refine ⟨entry, hfirst, ?_⟩
  intro settings keys threshold hkeys
  have husable : keys.isUsable = true := by simp [MatchKeys.isUsable, hkeys]
  simp [matchKeys, hindex.isEmpty_eq_false, husable, hkeys, hexact]

/-- An ISBN of the catalog may be spelled in any way. -/
theorem matchKeys_of_hitsIsbn (hindex : index.Reachable) (hhit : index.HitsIsbn keys) :
    ∃ key entry, keys.isbn.bind bareIsbn? = some key ∧ index.catalog.FirstWithIsbn key entry ∧
      ∀ (settings : MatchSettings) (threshold : Float),
        index.matchKeys settings keys threshold = [exactMatch entry] := by
  obtain ⟨key, hkey, hknown⟩ := hhit
  obtain ⟨isbn, hisbn, hbare⟩ := Option.bind_eq_some_iff.mp hkey
  obtain ⟨entry, hfirst, hexact⟩ := exists_exactCandidate hindex hbare hknown
  refine ⟨key, entry, hkey, hfirst, ?_⟩
  intro settings threshold
  have husable : keys.isUsable = true := by simp [MatchKeys.isUsable, hisbn]
  simp [matchKeys, hindex.isEmpty_eq_false, husable, hisbn, hexact]

end CandidateIndex

end Repricing

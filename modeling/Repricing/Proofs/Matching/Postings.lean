import Mathlib.Data.List.Count
import Mathlib.Data.List.Nodup
import Repricing.Matching.Index

/-!
# What the postings hold

A token leads to the slots, in ascending order, of the keys that have it, each slot once; an ISBN
leads to the first slot that has it.  Counting the slots of the tokens of a query counts, for each
slot, how many of the tokens its keys have.
-/

namespace Repricing

/-- Without repetitions, nothing occurs twice. -/
theorem nodup_eraseDups {α : Type} [DecidableEq α] : (xs : List α) → xs.eraseDups.Nodup
  | [] => List.nodup_nil
  | x :: xs => by
      rw [List.eraseDups_cons, List.nodup_cons]
      refine ⟨?_, nodup_eraseDups _⟩
      rw [List.mem_eraseDups]
      simp
termination_by xs => xs.length
decreasing_by exact Nat.lt_succ_of_le (List.length_filter_le _ xs)

/-- A key that has a value keeps it. -/
theorem getElem?_insertIfNew
    {β : Type} (t : Std.TreeMap String β) (key other : String) (value : β) :
    (t.insertIfNew key value)[other]? =
      t[other]?.or (if key = other then some value else none) := by
  rw [Std.TreeMap.getElem?_insertIfNew]
  simp only [Std.TreeMap.mem_iff_isSome_getElem?, Std.compare_eq_iff_eq]
  by_cases heq : key = other
  · subst heq
    cases t[key]? <;> simp
  · simp [heq]

namespace Postings

variable {slot : Nat} {token isbn title author : String} {keys : MatchKeys}

theorem nodup_tokenSet (title author : String) : (tokenSet title author).Nodup :=
  nodup_eraseDups _

theorem mem_tokenSet :
    token ∈ tokenSet title author ↔ token ∈ Text.tokens title ++ Text.tokens author :=
  List.mem_eraseDups

/-! ## Slots by token -/

theorem getD_addToken (postings : Postings) (slot : Nat) (added token : String) :
    (addToken slot postings added).byToken.getD token #[] =
      if added = token then (postings.byToken.getD token #[]).push slot
      else postings.byToken.getD token #[] := by
  rw [addToken, Std.TreeMap.getD_alter]
  simp only [Std.compare_eq_iff_eq, Option.getD_some]
  split
  · next heq => rw [heq, Std.TreeMap.getD_eq_getD_getElem?]
  · rfl

theorem getD_foldl_addToken
    (postings : Postings) (slot : Nat) (token : String) {added : List String}
    (hnodup : added.Nodup) :
    (added.foldl (addToken slot) postings).byToken.getD token #[] =
      if token ∈ added then (postings.byToken.getD token #[]).push slot
      else postings.byToken.getD token #[] := by
  induction added generalizing postings with
  | nil => rfl
  | cons first rest ih =>
      obtain ⟨hfirst, hrest⟩ := List.nodup_cons.mp hnodup
      rw [List.foldl_cons, ih _ hrest, getD_addToken]
      by_cases heq : first = token
      · subst heq
        simp [hfirst]
      · have hne : token ≠ first := fun h => heq h.symm
        simp [heq, hne]

theorem byToken_addIsbn (postings : Postings) (isbn : Option String) (slot : Nat) :
    (postings.addIsbn isbn slot).byToken = postings.byToken := by
  cases isbn <;> rfl

theorem getD_add (postings : Postings) (slot : Nat) (keys : MatchKeys) (token : String) :
    (postings.add slot keys).byToken.getD token #[] =
      if token ∈ tokenSet keys.title keys.author then (postings.byToken.getD token #[]).push slot
      else postings.byToken.getD token #[] := by
  rw [add, getD_foldl_addToken _ _ _ (nodup_tokenSet _ _), byToken_addIsbn]

theorem ofKeys_eq (keys : List MatchKeys) :
    ofKeys keys =
      keys.zipIdx.foldl (fun postings entry => postings.add entry.2 entry.1) ⟨∅, ∅⟩ := rfl

/-- A token leads to the slots whose keys have it, in their order. -/
theorem toList_getD_ofKeys (keys : List MatchKeys) (token : String) :
    ((ofKeys keys).byToken.getD token #[]).toList =
      (keys.zipIdx.filter fun entry => token ∈ tokenSet entry.1.title entry.1.author).map
        (·.2) := by
  have hfold : ∀ (entries : List (MatchKeys × Nat)) (postings : Postings),
      ((entries.foldl (fun postings entry => postings.add entry.2 entry.1)
        postings).byToken.getD token #[]).toList =
      (postings.byToken.getD token #[]).toList ++
        (entries.filter fun entry => token ∈ tokenSet entry.1.title entry.1.author).map
          (·.2) := by
    intro entries
    induction entries with
    | nil => simp
    | cons entry rest ih =>
        intro postings
        rw [List.foldl_cons, ih, getD_add]
        by_cases hmem : token ∈ tokenSet entry.1.title entry.1.author <;> simp [hmem]
  rw [ofKeys_eq, hfold]
  simp

/-! ## Slots by ISBN -/

theorem byIsbn_foldl_addToken (postings : Postings) (slot : Nat) (added : List String) :
    (added.foldl (addToken slot) postings).byIsbn = postings.byIsbn := by
  induction added generalizing postings with
  | nil => rfl
  | cons first rest ih => exact ih (addToken slot postings first)

theorem getElem?_byIsbn_add (postings : Postings) (slot : Nat) (keys : MatchKeys) (isbn : String) :
    (postings.add slot keys).byIsbn[isbn]? =
      postings.byIsbn[isbn]?.or (if keys.isbn = some isbn then some slot else none) := by
  rw [add, byIsbn_foldl_addToken]
  cases hkey : keys.isbn with
  | none => simp [addIsbn]
  | some other => simp only [addIsbn, getElem?_insertIfNew, Option.some.injEq]

/-- An ISBN leads to the first slot that has it. -/
theorem getElem?_byIsbn_ofKeys (keys : List MatchKeys) (isbn : String) :
    (ofKeys keys).byIsbn[isbn]? = keys.findIdx? (·.isbn == some isbn) := by
  have hfold : ∀ (start : Nat) (postings : Postings),
      ((keys.zipIdx start).foldl (fun postings entry => postings.add entry.2 entry.1)
        postings).byIsbn[isbn]? =
      postings.byIsbn[isbn]?.or ((keys.findIdx? (·.isbn == some isbn)).map (· + start)) := by
    induction keys with
    | nil => simp
    | cons first rest ih =>
        intro start postings
        rw [List.zipIdx_cons, List.foldl_cons, ih, getElem?_byIsbn_add, List.findIdx?_cons]
        by_cases heq : first.isbn = some isbn
        · cases postings.byIsbn[isbn]? <;> simp [heq]
        · have hadd : (fun i => i + 1 + start) = fun i => i + (start + 1) := by
            funext i
            omega
          simp [heq, Function.comp_def, hadd]
  rw [ofKeys_eq, hfold]
  simp

/-! ## Counting slots -/

/-- Counts a slot once more. -/
def countSlot (counts : Std.TreeMap Nat UInt32) (slot : Nat) : Std.TreeMap Nat UInt32 :=
  counts.alter slot fun count => some (count.getD 0 + 1)

/-- The slots of the tokens of a query, one token after the other. -/
def hits (postings : Postings) (query : List String) : List Nat :=
  query.flatMap fun token => (postings.byToken.getD token #[]).toList

/-- How many tokens of a query some keys have. -/
def shared (query : List String) (keys : MatchKeys) : Nat :=
  query.countP (· ∈ tokenSet keys.title keys.author)

theorem overlaps_eq_foldl_hits (postings : Postings) (query : List String) :
    postings.overlaps query = (postings.hits query).foldl countSlot ∅ := by
  rw [hits, List.foldl_flatMap, overlaps]
  congr 1
  funext counts token
  exact (Array.foldl_toList _).symm

theorem getElem?_foldl_countSlot
    (slots : List Nat) (counts : Std.TreeMap Nat UInt32) (slot : Nat) :
    (slots.foldl countSlot counts)[slot]? =
      if slot ∈ slots then some (counts.getD slot 0 + UInt32.ofNat (slots.count slot))
      else counts[slot]? := by
  induction slots generalizing counts with
  | nil => simp
  | cons first rest ih =>
      rw [List.foldl_cons, ih, countSlot, Std.TreeMap.getD_alter, Std.TreeMap.getElem?_alter,
        ← Std.TreeMap.getD_eq_getD_getElem?]
      simp only [Std.compare_eq_iff_eq]
      by_cases heq : first = slot
      · subst heq
        by_cases hrest : first ∈ rest
        · simp only [hrest, if_true, List.mem_cons_self, List.count_cons_self, UInt32.ofNat_add]
          rw [UInt32.ofNat_one]
          ac_rfl
        · simp [hrest, List.count_eq_zero_of_not_mem hrest]
      · have hne : slot ≠ first := fun h => heq h.symm
        simp [heq, hne]

variable {keys : List MatchKeys} {query : List String} {slot : Nat} {key : MatchKeys}

theorem mem_zipIdx_filter_iff {p : MatchKeys → Bool} :
    slot ∈ (keys.zipIdx.filter fun entry => p entry.1).map (·.2) ↔
      ∃ key, keys[slot]? = some key ∧ p key = true := by
  simp [List.mem_zipIdx_iff_getElem?]

theorem nodup_zipIdx_filter (keys : List MatchKeys) (p : MatchKeys × Nat → Bool) :
    ((keys.zipIdx.filter p).map (·.2)).Nodup := by
  apply List.Nodup.sublist (List.filter_sublist.map _)
  rw [List.zipIdx_map_snd]
  exact List.nodup_range'

/-- A token counts once for the keys at a slot, however often they have it. -/
theorem count_getD_ofKeys (hkey : keys[slot]? = some key) (token : String) :
    ((ofKeys keys).byToken.getD token #[]).toList.count slot =
      if token ∈ tokenSet key.title key.author then 1 else 0 := by
  rw [toList_getD_ofKeys, (nodup_zipIdx_filter keys _).count]
  congr 1
  rw [mem_zipIdx_filter_iff (p := fun key => token ∈ tokenSet key.title key.author), hkey]
  simp

theorem count_hits_ofKeys (hkey : keys[slot]? = some key) (query : List String) :
    ((ofKeys keys).hits query).count slot = shared query key := by
  rw [hits, shared]
  induction query with
  | nil => rfl
  | cons token rest ih =>
      rw [List.flatMap_cons, List.count_append, ih, count_getD_ofKeys hkey, List.countP_cons]
      simp [Nat.add_comm]

theorem mem_hits_ofKeys :
    slot ∈ (ofKeys keys).hits query ↔
      ∃ key, keys[slot]? = some key ∧ 0 < shared query key := by
  constructor
  · intro hslot
    obtain ⟨token, -, htoken⟩ := List.mem_flatMap.mp hslot
    rw [toList_getD_ofKeys, mem_zipIdx_filter_iff
      (p := fun key => token ∈ tokenSet key.title key.author)] at htoken
    obtain ⟨key, hkey, -⟩ := htoken
    refine ⟨key, hkey, ?_⟩
    rw [← count_hits_ofKeys hkey]
    exact List.count_pos_iff.mpr hslot
  · rintro ⟨key, hkey, hpos⟩
    rw [← count_hits_ofKeys hkey] at hpos
    exact List.count_pos_iff.mp hpos

/-- The slots that have any of the tokens, with the numbers of these tokens. -/
theorem toList_overlaps_perm (keys : List MatchKeys) (query : List String) :
    ((ofKeys keys).overlaps query).toList.Perm
      ((keys.zipIdx.filter fun entry => 0 < shared query entry.1).map fun entry =>
        (entry.2, UInt32.ofNat (shared query entry.1))) := by
  rw [List.perm_ext_iff_of_nodup]
  · rintro ⟨slot, count⟩
    rw [Std.TreeMap.mem_toList_iff_getElem?_eq_some, overlaps_eq_foldl_hits,
      getElem?_foldl_countSlot, List.mem_map]
    constructor
    · intro hcount
      split at hcount
      · next hslot =>
          obtain ⟨key, hkey, hpos⟩ := mem_hits_ofKeys.mp hslot
          refine ⟨(key, slot), ?_, ?_⟩
          · simpa [List.mem_zipIdx_iff_getElem?] using ⟨hkey, hpos⟩
          · rw [count_hits_ofKeys hkey, Std.TreeMap.getD_emptyc, UInt32.zero_add] at hcount
            rw [Option.some.inj hcount]
      · simp at hcount
    · rintro ⟨⟨key, i⟩, hentry, heq⟩
      obtain ⟨rfl, rfl⟩ := Prod.mk.inj heq
      simp only [List.mem_filter, List.mem_zipIdx_iff_getElem?, decide_eq_true_eq] at hentry
      obtain ⟨hkey, hpos⟩ := hentry
      rw [if_pos (mem_hits_ofKeys.mpr ⟨key, hkey, hpos⟩), count_hits_ofKeys hkey,
        Std.TreeMap.getD_emptyc, UInt32.zero_add]
  · refine Std.TreeMap.distinct_keys_toList.imp fun hne heq => hne ?_
    rw [heq]
    exact Std.ReflCmp.compare_self
  · apply List.Nodup.of_map (·.1)
    rw [List.map_map]
    exact nodup_zipIdx_filter keys _

end Postings

/-- A lookup by tokens gives no slot twice. -/
theorem CandidateIndex.nodup_tokenSlots
    (index : CandidateIndex) (title author : String) (k : UInt64) :
    (index.tokenSlots title author k).Nodup := by
  let counts := index.postings.overlaps (Postings.tokenSet title author)
  have hkeys : (counts.toList.map (·.1)).Nodup := by
    rw [Std.TreeMap.map_fst_toList_eq_keys]
    exact Std.TreeMap.nodup_keys
  rw [tokenSlots, stableSort_eq_mergeSort, List.map_take]
  apply List.Nodup.sublist (List.take_sublist _ _)
  exact ((List.mergeSort_perm _ _).map _).nodup_iff.mpr hkeys

end Repricing

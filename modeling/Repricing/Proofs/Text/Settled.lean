import Mathlib.Data.List.Chain
import Mathlib.Data.Nat.Bitwise
import Repricing.Text.Fold

/-!
# Settled characters

A code point is settled when it does not come apart.  What decompositions are made of is settled,
and so is the lower-case form of a settled character; a lower-case form has no other lower-case
form.  So folding has nothing left to do on a letter or number that it gave out itself.

These are facts about the tables.  They are looked up in sets of code points that are kept as the
bits of a number.
-/

namespace Repricing.Text

/-! ## Sets of code points -/

/-- The set of the numbers in a list, as the bits of a number. -/
def bitSet (codes : List Nat) : Nat :=
  codes.foldr (fun code set => 2 ^ code ||| set) 0

theorem testBit_bitSet (codes : List Nat) (code : Nat) :
    (bitSet codes).testBit code = decide (code ∈ codes) := by
  induction codes with
  | nil => simp [bitSet]
  | cons first rest ih =>
      rw [bitSet] at ih
      rw [bitSet, List.foldr_cons, Nat.testBit_or, ih, Nat.testBit_two_pow]
      simp [eq_comm]

/-- The set of the numbers in any of the lists. -/
def bitUnion (lists : List (List Nat)) : Nat :=
  lists.foldr (fun codes set => bitSet codes ||| set) 0

theorem testBit_bitUnion (lists : List (List Nat)) (code : Nat) :
    (bitUnion lists).testBit code = decide (∃ codes ∈ lists, code ∈ codes) := by
  induction lists with
  | nil => simp [bitUnion]
  | cons codes rest ih =>
      rw [bitUnion] at ih
      rw [bitUnion, List.foldr_cons, Nat.testBit_or, ih, testBit_bitSet]
      simp

/-! ## Decompositions -/

namespace Decomposition

/-- The code points that a block decomposes. -/
def Block.codes (block : Block) : List Nat :=
  List.range' block.first block.rows.length

/-- The code points that the table decomposes. -/
def tableCodes : Nat :=
  bitUnion (blocks.map Block.codes)

/-- Whether a code point does not come apart. -/
def isSettled (code : Nat) : Bool :=
  !isHangulSyllable code && !tableCodes.testBit code

/-- What is found is a row of one of the blocks. -/
theorem exists_of_lookup_eq_some {bs : List Block} {code : Nat} {row : List Nat}
    (hrow : lookup bs code = some row) :
    ∃ block ∈ bs, row ∈ block.rows ∧ code ∈ block.codes := by
  induction bs with
  | nil => cases hrow
  | cons block rest ih =>
      rw [lookup] at hrow
      split at hrow
      · cases hrow
      · next hfirst =>
          split at hrow
          · next found hfound =>
              cases hrow
              obtain ⟨hlt, -⟩ := List.getElem?_eq_some_iff.mp hfound
              refine ⟨block, List.mem_cons_self, List.mem_of_getElem? hfound, ?_⟩
              rw [Block.codes, List.mem_range'_1]
              omega
          · obtain ⟨block, hblock, hfound⟩ := ih hrow
            exact ⟨block, List.mem_cons_of_mem _ hblock, hfound⟩

/-- In ascending blocks, a search that finds nothing has missed nothing. -/
theorem not_mem_codes_of_lookup_eq_none {bs : List Block} {code : Nat}
    (hascending : bs.Pairwise fun a b => a.first ≤ b.first) (hnone : lookup bs code = none) :
    ∀ block ∈ bs, code ∉ block.codes := by
  induction bs with
  | nil =>
      intro block hblock
      cases hblock
  | cons block rest ih =>
      obtain ⟨hfirst, hrest⟩ := List.pairwise_cons.mp hascending
      have hbelow : ∀ b : Block, code < b.first → code ∉ b.codes := by
        intro b hlt hmem
        rw [Block.codes, List.mem_range'_1] at hmem
        omega
      rw [lookup] at hnone
      intro b hb
      split at hnone
      · next hlt =>
          rcases List.mem_cons.mp hb with rfl | hb
          · exact hbelow b hlt
          · exact hbelow b (Nat.lt_of_lt_of_le hlt (hfirst b hb))
      · next hnot =>
          split at hnone
          · cases hnone
          · next hbeyond =>
              rcases List.mem_cons.mp hb with rfl | hb
              · rw [List.getElem?_eq_none_iff] at hbeyond
                rw [Block.codes, List.mem_range'_1]
                omega
              · exact ih hrest hnone b hb

theorem pairwise_blocks : blocks.Pairwise fun a b => a.first ≤ b.first := by
  have hchain : blocks.IsChain fun a b => a.first ≤ b.first := by decide +kernel
  have : Trans (fun a b : Block => a.first ≤ b.first) (fun a b : Block => a.first ≤ b.first)
      (fun a b : Block => a.first ≤ b.first) := ⟨Nat.le_trans⟩
  exact List.isChain_iff_pairwise.mp hchain

theorem codes_of_isSettled {code : Nat} (hsettled : isSettled code = true) :
    codes code = [code] := by
  rw [isSettled, Bool.and_eq_true, Bool.not_eq_true', Bool.not_eq_true'] at hsettled
  obtain ⟨hhangul, htable⟩ := hsettled
  have hnone : lookup blocks code = none := by
    by_contra hsome
    obtain ⟨row, hrow⟩ := Option.ne_none_iff_exists'.mp hsome
    obtain ⟨block, hblock, -, hmem⟩ := exists_of_lookup_eq_some hrow
    rw [tableCodes, testBit_bitUnion, decide_eq_false_iff_not] at htable
    exact htable ⟨_, List.mem_map_of_mem hblock, hmem⟩
  rw [codes, hhangul, if_neg Bool.false_ne_true, hnone, Option.getD_none]

/-- What the rows are made of is settled. -/
theorem isSettled_of_mem_row {block : Block} {row : List Nat} {code : Nat}
    (hblock : block ∈ blocks) (hrow : row ∈ block.rows) (hcode : code ∈ row) :
    isSettled code = true ∧ code.isValidChar := by
  have hrows : (blocks.all fun block => block.rows.all fun row => row.all fun code =>
      isSettled code && decide code.isValidChar) = true := by decide +kernel
  have hboth := List.all_eq_true.mp (List.all_eq_true.mp (List.all_eq_true.mp hrows
    block hblock) row hrow) code hcode
  rwa [Bool.and_eq_true, decide_eq_true_iff] at hboth

/-- The letters of syllables are settled. -/
theorem isSettled_of_mem_hangulLetters {index code : Nat} (hindex : index < 11172)
    (hcode : code ∈ hangulLetters index) :
    isSettled code = true ∧ code.isValidChar := by
  -- All letters lie in one block, and nothing in that block comes apart.
  have hletters : (List.range' 0x1100 0x100).all isSettled = true := by decide +kernel
  have hrange : 0x1100 ≤ code ∧ code < 0x1200 := by
    rw [hangulLetters] at hcode
    split at hcode <;> simp only [List.mem_cons, List.not_mem_nil, or_false] at hcode <;> omega
  refine ⟨List.all_eq_true.mp hletters code ?_, Or.inl (by omega)⟩
  rw [List.mem_range'_1]
  omega

/-- What a code point decomposes into is settled. -/
theorem isSettled_of_mem_codes {code part : Nat} (hvalid : code.isValidChar)
    (hpart : part ∈ codes code) :
    isSettled part = true ∧ part.isValidChar := by
  rw [codes] at hpart
  split at hpart
  · next hhangul =>
      rw [isHangulSyllable, Bool.and_eq_true, decide_eq_true_iff, decide_eq_true_iff] at hhangul
      exact isSettled_of_mem_hangulLetters (by omega) hpart
  · next hhangul =>
      cases hrow : lookup blocks code with
      | some row =>
          rw [hrow, Option.getD_some] at hpart
          obtain ⟨block, hblock, hmem, -⟩ := exists_of_lookup_eq_some hrow
          exact isSettled_of_mem_row hblock hmem hpart
      | none =>
          rw [hrow, Option.getD_none, List.mem_singleton] at hpart
          subst hpart
          have htable : tableCodes.testBit part = false := by
            rw [tableCodes, testBit_bitUnion, decide_eq_false_iff_not]
            rintro ⟨codes, hcodes, hmem⟩
            obtain ⟨block, hblock, rfl⟩ := List.mem_map.mp hcodes
            exact not_mem_codes_of_lookup_eq_none pairwise_blocks hrow block hblock hmem
          exact ⟨by rw [isSettled, htable, Bool.eq_false_of_not_eq_true hhangul]; rfl, hvalid⟩

end Decomposition

open Decomposition

theorem toNat_ofNat {code : Nat} (hvalid : code.isValidChar) : (Char.ofNat code).toNat = code := by
  rw [Char.ofNat, dif_pos hvalid]
  rfl

theorem decompose_of_isSettled {c : Char} (hsettled : isSettled c.toNat = true) :
    decompose c = [c] := by
  rw [decompose, codes_of_isSettled hsettled, List.map_singleton, Char.ofNat_toNat]

theorem isSettled_of_mem_decompose {c d : Char} (hmem : d ∈ decompose c) :
    isSettled d.toNat = true := by
  obtain ⟨part, hpart, rfl⟩ := List.mem_map.mp hmem
  obtain ⟨hsettled, hvalid⟩ := isSettled_of_mem_codes c.valid hpart
  rwa [toNat_ofNat hvalid]

/-! ## Lower case -/

/-- The code points that a run maps. -/
def CaseRun.codes (run : CaseRun) : List Nat :=
  List.range' run.first ((run.last - run.first) / run.step + 1) run.step

/-- The code points that have another lower-case form. -/
def caseCodes : Nat :=
  bitUnion (caseRuns.map CaseRun.codes)

theorem CaseRun.mem_codes_of_covers {run : CaseRun} {code : Nat}
    (hcovers : run.covers code = true) :
    code ∈ run.codes := by
  rw [covers, Bool.and_eq_true, Bool.and_eq_true, decide_eq_true_iff, decide_eq_true_iff,
    beq_iff_eq] at hcovers
  obtain ⟨⟨hfirst, hlast⟩, hstep⟩ := hcovers
  rw [codes, List.mem_range']
  refine ⟨(code - run.first) / run.step, Nat.lt_succ_of_le (Nat.div_le_div_right (by omega)), ?_⟩
  have := Nat.div_add_mod (code - run.first) run.step
  omega

theorem lowerCode_of_testBit_eq_false {code : Nat} (hcase : caseCodes.testBit code = false) :
    lowerCode code = code := by
  have hnone : caseRuns.find? (·.covers code) = none := by
    rw [List.find?_eq_none]
    intro run hrun hcovers
    rw [caseCodes, testBit_bitUnion, decide_eq_false_iff_not] at hcase
    exact hcase ⟨_, List.mem_map_of_mem hrun, CaseRun.mem_codes_of_covers hcovers⟩
  rw [lowerCode, hnone]

/-- The lower-case form of a settled code point is settled, and it has no other lower-case form. -/
theorem isSettled_lowerCode {code : Nat} (hvalid : code.isValidChar)
    (hsettled : isSettled code = true) :
    isSettled (lowerCode code) = true ∧ lowerCode (lowerCode code) = lowerCode code ∧
      (lowerCode code).isValidChar := by
  have hruns : (caseRuns.all fun run => run.codes.all fun code =>
      let lowered := run.lower + (code - run.first)
      !isSettled code || isSettled lowered && !caseCodes.testBit lowered
        && decide lowered.isValidChar) = true := by decide +kernel
  cases hfind : caseRuns.find? (·.covers code) with
  | none =>
      have hlower : lowerCode code = code := by rw [lowerCode, hfind]
      rw [hlower]
      exact ⟨hsettled, hlower, hvalid⟩
  | some run =>
      have hlower : lowerCode code = run.lower + (code - run.first) := by rw [lowerCode, hfind]
      have hcovers := List.find?_some hfind
      have hcode := List.all_eq_true.mp (List.all_eq_true.mp hruns run
        (List.mem_of_find?_eq_some hfind)) code (CaseRun.mem_codes_of_covers hcovers)
      dsimp only at hcode
      rw [← hlower, hsettled, Bool.not_true, Bool.false_or, Bool.and_eq_true, Bool.and_eq_true,
        Bool.not_eq_true', decide_eq_true_iff] at hcode
      obtain ⟨⟨hform, hcase⟩, hformValid⟩ := hcode
      exact ⟨hform, lowerCode_of_testBit_eq_false hcase, hformValid⟩

/-- The lower-case form of a settled character is one settled character, which is its own lower-case
form. -/
theorem exists_lowerChar_of_isSettled {c : Char} (hsettled : isSettled c.toNat = true) :
    ∃ d, lowerChar c = [d] ∧ isSettled d.toNat = true ∧ lowerChar d = [d] := by
  -- The one character with a lower-case form of two characters comes apart itself.
  have hone : ∀ e : Char, isSettled e.toNat = true →
      lowerChar e = [Char.ofNat (lowerCode e.toNat)] := by
    intro e he
    refine if_neg ?_
    rintro rfl
    exact absurd he (by decide +kernel)
  have hchar : c.toNat.isValidChar := c.valid
  obtain ⟨hform, hagain, hvalid⟩ := isSettled_lowerCode hchar hsettled
  have htoNat := toNat_ofNat hvalid
  rw [← htoNat] at hform
  refine ⟨Char.ofNat (lowerCode c.toNat), hone c hsettled, hform, ?_⟩
  rw [hone _ hform, htoNat, hagain]

/-! ## Folded characters -/

theorem foldChar_of_isSettled {c : Char} (hsettled : isSettled c.toNat = true)
    (hmark : isMark c = false) (hlower : lowerChar c = [c]) :
    foldChar c = [if isAlphanumeric c then c else ' '] := by
  have hbase : baseLetters c = [c] := by
    rw [baseLetters, decompose_of_isSettled hsettled, List.filter_singleton, hmark]
    rfl
  rw [foldChar, hbase, List.flatMap_singleton, hlower, List.flatMap_singleton, hbase,
    List.map_singleton]

/-- Folding gives out letters and numbers that fold to themselves, and spaces. -/
theorem eq_space_or_foldChar_eq_of_mem {c d : Char} (hmem : d ∈ foldChar c) :
    d = ' ' ∨ isAlphanumeric d = true ∧ foldChar d = [d] := by
  obtain ⟨e, he, hd⟩ := List.mem_map.mp hmem
  obtain ⟨l, hl, hel⟩ := List.mem_flatMap.mp he
  obtain ⟨b, hb, hlb⟩ := List.mem_flatMap.mp hl
  obtain ⟨l', hlower, hsettled, hagain⟩ :=
    exists_lowerChar_of_isSettled (isSettled_of_mem_decompose (List.mem_filter.mp hb).1)
  obtain rfl : l = l' := by rwa [hlower, List.mem_singleton] at hlb
  rw [baseLetters, decompose_of_isSettled hsettled, List.mem_filter, List.mem_singleton,
    Bool.not_eq_true'] at hel
  obtain ⟨rfl, hmark⟩ := hel
  split at hd
  · next halpha =>
      subst hd
      refine Or.inr ⟨halpha, ?_⟩
      rw [foldChar_of_isSettled hsettled hmark hagain, if_pos halpha]
  · exact Or.inl hd.symm

end Repricing.Text

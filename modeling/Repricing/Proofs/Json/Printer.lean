import Repricing.Proofs.Json.Scalars

/-!
# A JSON text stands for one value

The first character of a text tells the kind of the value, and what follows the value is no part of
it. So two values whose doubles are finite have different texts, on one line or spread over lines.
-/

namespace Repricing.Json

open Decimal (NotHead notHead_nil notHead_cons)

/-! ## Kinds of values -/

/-- What the first character of a text tells. -/
inductive Kind where
  | null
  | bool (value : Bool)
  | number
  | str
  | arr
  | obj
deriving DecidableEq

def kind : Json → Kind
  | .null => .null
  | .bool value => .bool value
  | .int _ | .float _ => .number
  | .str _ => .str
  | .arr _ => .arr
  | .obj _ => .obj

/-- The kind of a value whose text begins with the character. -/
def Kind.ofChar? (c : Char) : Option Kind :=
  if c = 'n' then some .null
  else if c = 't' then some (.bool true)
  else if c = 'f' then some (.bool false)
  else if c = '"' then some .str
  else if c = '[' then some .arr
  else if c = '\x7b' then some .obj
  else if isNumberChar c then some .number
  else none

/-- A value all of whose doubles are finite. -/
inductive FiniteFloats : Json → Prop where
  | null : FiniteFloats .null
  | bool (b : Bool) : FiniteFloats (.bool b)
  | int (n : Int) : FiniteFloats (.int n)
  | float {x : Float} (hfinite : x.isFinite = true) : FiniteFloats (.float x)
  | str (s : String) : FiniteFloats (.str s)
  | arr {items : List Json} (hitems : ∀ item ∈ items, FiniteFloats item) : FiniteFloats (.arr items)
  | obj {entries : List (String × Json)} (hentries : ∀ entry ∈ entries, FiniteFloats entry.2) :
      FiniteFloats (.obj entries)

/-- Only blanks set the parts of arrays and objects apart. -/
structure Spacing.IsBlank (spacing : Spacing) : Prop where
  item : ∀ level, ∀ c ∈ spacing.item level, c = ' ' ∨ c = '\n'
  close : ∀ level, ∀ c ∈ spacing.close level, c = ' ' ∨ c = '\n'

theorem IsNumberText.exists_cons {cs : List Char} (hcs : IsNumberText cs) :
    ∃ c cs', cs = c :: cs' ∧ Kind.ofChar? c = some .number := by
  obtain ⟨c, cs', rfl⟩ := List.exists_cons_of_ne_nil hcs.ne_nil
  have hc := hcs.all c List.mem_cons_self
  refine ⟨c, cs', rfl, ?_⟩
  unfold Kind.ofChar?
  -- No other first character is one of a number.
  split_ifs
  all_goals first | rfl | (subst c; cases hc)

variable {spacing : Spacing} {level : Nat} {v w : Json} {r r' : List Char}

theorem exists_chars_eq_cons (spacing : Spacing) (level : Nat) (hv : FiniteFloats v) :
    ∃ c cs, chars spacing level v = c :: cs ∧ Kind.ofChar? c = some v.kind := by
  cases hv with
  | null => exact ⟨_, _, rfl, rfl⟩
  | bool b => cases b <;> exact ⟨_, _, rfl, rfl⟩
  | int n => exact (isNumberText_intChars n).exists_cons
  | float hfinite => exact (isNumberText_floatChars hfinite).exists_cons
  | str s => exact ⟨_, _, rfl, rfl⟩
  | @arr items _ => cases items <;> exact ⟨_, _, rfl, rfl⟩
  | @obj entries _ => cases entries <;> exact ⟨_, _, rfl, rfl⟩

/-- Texts that are the same are of values of one kind. -/
theorem kind_eq_of_chars (hv : FiniteFloats v) (hw : FiniteFloats w)
    (heq : chars spacing level v ++ r = chars spacing level w ++ r') : v.kind = w.kind := by
  obtain ⟨c, cs, hchars, hkind⟩ := exists_chars_eq_cons spacing level hv
  obtain ⟨c', cs', hchars', hkind'⟩ := exists_chars_eq_cons spacing level hw
  rw [hchars, hchars', List.cons_append, List.cons_append] at heq
  rw [(List.cons.inj heq).1, hkind'] at hkind
  exact (Option.some.inj hkind).symm

/-! ## What follows a value -/

theorem notHead_of_blanks
    {p : Char → Prop} {cs rest : List Char} (hcs : ∀ c ∈ cs, c = ' ' ∨ c = '\n')
    (hspace : ¬ p ' ') (hbreak : ¬ p '\n') (hrest : NotHead p rest) : NotHead p (cs ++ rest) := by
  cases cs with
  | nil => exact hrest
  | cons c cs =>
      apply notHead_cons
      rcases hcs c List.mem_cons_self with rfl | rfl
      · exact hspace
      · exact hbreak

/-- Nothing else of the kind has the text, and it ends where its text does. -/
def Recognized {α : Type} (text : α → List Char) (ok : α → Prop) (a : α) : Prop :=
  ∀ (b : α) (r r' : List Char), ok b → Ended r → Ended r' → text a ++ r = text b ++ r' →
    a = b ∧ r = r'

/-! ## Parts of arrays and objects -/

section Parts

variable {α : Type} {part : α → List Char} {closing : List Char} {closer : Char} {ok : α → Prop}
  {as bs : List α}

/-- The parts after the first one, each after a comma. -/
def laterParts (part : α → List Char) (as : List α) : List Char :=
  as.flatMap fun a => ',' :: part a

/-- All parts, and what closes the array or the object. -/
def partsChars (part : α → List Char) (closing : List Char) (closer : Char) : List α → List Char
  | [] => [closer]
  | a :: rest => part a ++ (laterParts part rest ++ (closing ++ [closer]))

/-- What comes between the last part and the closing bracket is blank, and the bracket is neither a
comma nor part of a number. -/
structure Closes (closing : List Char) (closer : Char) : Prop where
  blank : ∀ c ∈ closing, c = ' ' ∨ c = '\n'
  ne_comma : closer ≠ ','
  not_number : ¬ isNumberChar closer = true

theorem Closes.notHead_comma (hcloses : Closes closing closer) (r : List Char) :
    NotHead (· = ',') (closing ++ closer :: r) :=
  notHead_of_blanks hcloses.blank (by decide) (by decide) (notHead_cons hcloses.ne_comma)

/-- After a part there is a comma, or what closes the array or the object. -/
theorem Closes.ended (hcloses : Closes closing closer) (as : List α) (r : List Char) :
    Ended (laterParts part as ++ (closing ++ closer :: r)) := by
  cases as with
  | nil =>
      rw [laterParts, List.flatMap_nil, List.nil_append]
      exact notHead_of_blanks hcloses.blank (by decide) (by decide)
        (notHead_cons hcloses.not_number)
  | cons a rest => exact notHead_cons (by decide)

theorem laterParts_append_inj
    (hcloses : Closes closing closer) (has : ∀ a ∈ as, Recognized part ok a) (hbs : ∀ b ∈ bs, ok b)
    (heq : laterParts part as ++ (closing ++ closer :: r) =
      laterParts part bs ++ (closing ++ closer :: r')) :
    as = bs ∧ r = r' := by
  induction as generalizing bs with
  | nil =>
      cases bs with
      | nil => exact ⟨rfl, (List.cons.inj (List.append_cancel_left heq)).2⟩
      | cons b bs =>
          have hhead := hcloses.notHead_comma r
          rw [laterParts, List.flatMap_nil, List.nil_append] at heq
          rw [heq] at hhead
          exact absurd rfl (hhead _ rfl)
  | cons a as ih =>
      cases bs with
      | nil =>
          have hhead := hcloses.notHead_comma r'
          rw [laterParts, laterParts, List.flatMap_nil, List.nil_append] at heq
          rw [← heq] at hhead
          exact absurd rfl (hhead _ rfl)
      | cons b bs =>
          obtain ⟨ha, hlater⟩ := List.forall_mem_cons.mp has
          obtain ⟨hb, hlater'⟩ := List.forall_mem_cons.mp hbs
          rw [laterParts, laterParts, List.flatMap_cons, List.flatMap_cons, List.append_assoc,
            List.append_assoc] at heq
          obtain ⟨rfl, htail⟩ := ha b _ _ hb (hcloses.ended as r) (hcloses.ended bs r')
            (List.cons.inj heq).2
          obtain ⟨rfl, rfl⟩ := ih hlater hlater' htail
          exact ⟨rfl, rfl⟩

/-- An array or an object is told by its parts, none of which begins with what closes it. -/
theorem partsChars_append_inj
    (hcloses : Closes closing closer) (hfirst : ∀ a, ok a → ∀ r, NotHead (· = closer) (part a ++ r))
    (has : ∀ a ∈ as, Recognized part ok a) (hoks : ∀ a ∈ as, ok a) (hbs : ∀ b ∈ bs, ok b)
    (heq : partsChars part closing closer as ++ r = partsChars part closing closer bs ++ r') :
    as = bs ∧ r = r' := by
  have hcons (a : α) (rest : List α) (r : List Char) :
      partsChars part closing closer (a :: rest) ++ r =
        part a ++ (laterParts part rest ++ (closing ++ closer :: r)) := by
    simp only [partsChars, List.append_assoc, List.singleton_append]
  cases as with
  | nil =>
      cases bs with
      | nil => exact ⟨rfl, List.append_cancel_left heq⟩
      | cons b bs =>
          have hhead := hfirst b (hbs b List.mem_cons_self)
          rw [hcons] at heq
          exact absurd rfl ((heq ▸ hhead _) _ rfl)
  | cons a as =>
      obtain ⟨ha, hlater⟩ := List.forall_mem_cons.mp has
      cases bs with
      | nil =>
          have hhead := hfirst a (hoks a List.mem_cons_self)
          rw [hcons] at heq
          exact absurd rfl ((heq ▸ hhead _) _ rfl)
      | cons b bs =>
          obtain ⟨hb, hlater'⟩ := List.forall_mem_cons.mp hbs
          rw [hcons, hcons] at heq
          obtain ⟨rfl, htail⟩ := ha b _ _ hb (hcloses.ended as r) (hcloses.ended bs r') heq
          obtain ⟨rfl, rfl⟩ := laterParts_append_inj hcloses hlater hlater' htail
          exact ⟨rfl, rfl⟩

end Parts

/-- An item of an array. -/
def itemPart (spacing : Spacing) (level : Nat) (item : Json) : List Char :=
  spacing.item level ++ chars spacing (level + 1) item

/-- An entry of an object. -/
def entryPart (spacing : Spacing) (level : Nat) (entry : String × Json) : List Char :=
  spacing.item level ++ (quote entry.1 ++ (spacing.colon ++ chars spacing (level + 1) entry.2))

theorem itemsChars_eq (items : List Json) :
    itemsChars spacing level items = laterParts (itemPart spacing level) items := by
  induction items with
  | nil => rfl
  | cons item rest ih =>
      rw [itemsChars, ih]
      rfl

theorem entriesChars_eq (entries : List (String × Json)) :
    entriesChars spacing level entries = laterParts (entryPart spacing level) entries := by
  induction entries with
  | nil => rfl
  | cons entry rest ih =>
      obtain ⟨key, item⟩ := entry
      simp only [entriesChars, ih, laterParts, List.flatMap_cons, entryPart, List.append_assoc,
        List.cons_append]

theorem chars_arr (items : List Json) :
    chars spacing level (.arr items) =
      '[' :: partsChars (itemPart spacing level) (spacing.close level) ']' items := by
  cases items with
  | nil => rfl
  | cons item rest =>
      simp only [chars, itemsChars_eq, partsChars, itemPart, List.append_assoc, List.cons_append]

theorem chars_obj (entries : List (String × Json)) :
    chars spacing level (.obj entries) =
      '\x7b' :: partsChars (entryPart spacing level) (spacing.close level) '\x7d' entries := by
  cases entries with
  | nil => rfl
  | cons entry rest =>
      obtain ⟨key, item⟩ := entry
      simp only [chars, entriesChars_eq, partsChars, entryPart, List.append_assoc, List.cons_append]

/-- No value begins with a closing bracket. -/
theorem notHead_itemPart
    (hblank : spacing.IsBlank) (level : Nat) (hv : FiniteFloats v) (r : List Char) :
    NotHead (· = ']') (itemPart spacing level v ++ r) := by
  obtain ⟨c, cs, hchars, hkind⟩ := exists_chars_eq_cons spacing (level + 1) hv
  rw [itemPart, hchars, List.append_assoc]
  apply notHead_of_blanks (hblank.item level) (by decide) (by decide)
  apply notHead_cons
  rintro rfl
  cases hkind

theorem notHead_entryPart
    (hblank : spacing.IsBlank) (level : Nat) (entry : String × Json) (r : List Char) :
    NotHead (· = '\x7d') (entryPart spacing level entry ++ r) := by
  rw [entryPart, List.append_assoc]
  exact notHead_of_blanks (hblank.item level) (by decide) (by decide) (notHead_cons (by decide))

/-! ## Texts of values -/

theorem recognized_int (n : Int) : Recognized (chars spacing level) FiniteFloats (.int n) := by
  intro w r r' hw hr hr' heq
  have hkind := kind_eq_of_chars (.int n) hw heq
  cases hw <;> cases hkind
  · obtain ⟨htext, hrest⟩ :=
      (isNumberText_intChars n).append_inj (isNumberText_intChars _) hr hr' heq
    exact ⟨congrArg Json.int (intChars_injective htext), hrest⟩
  · next hfinite =>
      obtain ⟨htext, -⟩ :=
        (isNumberText_intChars n).append_inj (isNumberText_floatChars hfinite) hr hr' heq
      exact absurd htext (intChars_ne_floatChars n hfinite)

theorem recognized_float {x : Float} (hx : x.isFinite = true) :
    Recognized (chars spacing level) FiniteFloats (.float x) := by
  intro w r r' hw hr hr' heq
  have hkind := kind_eq_of_chars (.float hx) hw heq
  cases hw <;> cases hkind
  · obtain ⟨htext, -⟩ :=
      (isNumberText_floatChars hx).append_inj (isNumberText_intChars _) hr hr' heq
    exact absurd htext.symm (intChars_ne_floatChars _ hx)
  · next hfinite =>
      obtain ⟨htext, hrest⟩ :=
        (isNumberText_floatChars hx).append_inj (isNumberText_floatChars hfinite) hr hr' heq
      exact ⟨congrArg Json.float (floatChars_inj hx hfinite htext), hrest⟩

theorem recognized_arr
    (hblank : spacing.IsBlank) {items : List Json} (hfinite : ∀ item ∈ items, FiniteFloats item)
    (hitems : ∀ item ∈ items, Recognized (chars spacing (level + 1)) FiniteFloats item) :
    Recognized (chars spacing level) FiniteFloats (.arr items) := by
  intro w r r' hw hr hr' heq
  have hkind := kind_eq_of_chars (.arr hfinite) hw heq
  have hcloses : Closes (spacing.close level) ']' := ⟨hblank.close level, by decide, by decide⟩
  have hparts :
      ∀ item ∈ items, Recognized (itemPart spacing level) FiniteFloats item := by
    intro item hitem w r r' hw hr hr' heq
    rw [itemPart, itemPart, List.append_assoc, List.append_assoc] at heq
    exact hitems item hitem w r r' hw hr hr' (List.append_cancel_left heq)
  cases hw <;> cases hkind
  next items' hfinite' =>
    rw [chars_arr, chars_arr] at heq
    obtain ⟨rfl, rfl⟩ := partsChars_append_inj hcloses
      (fun _ hv => notHead_itemPart hblank level hv) hparts hfinite hfinite' (List.cons.inj heq).2
    exact ⟨rfl, rfl⟩

theorem recognized_obj
    (hblank : spacing.IsBlank) {entries : List (String × Json)}
    (hfinite : ∀ entry ∈ entries, FiniteFloats entry.2)
    (hentries : ∀ entry ∈ entries,
      Recognized (chars spacing (level + 1)) FiniteFloats entry.2) :
    Recognized (chars spacing level) FiniteFloats (.obj entries) := by
  intro w r r' hw hr hr' heq
  have hkind := kind_eq_of_chars (.obj hfinite) hw heq
  have hcloses : Closes (spacing.close level) '\x7d' := ⟨hblank.close level, by decide, by decide⟩
  have hparts :
      ∀ entry ∈ entries, Recognized (entryPart spacing level) (FiniteFloats ·.2) entry := by
    rintro ⟨key, item⟩ hentry ⟨key', item'⟩ r r' hw hr hr' heq
    simp only [entryPart, List.append_assoc] at heq
    obtain ⟨rfl, hvalue⟩ := quote_append_inj (List.append_cancel_left heq)
    obtain ⟨rfl, rfl⟩ := hentries _ hentry item' r r' hw hr hr' (List.append_cancel_left hvalue)
    exact ⟨rfl, rfl⟩
  cases hw <;> cases hkind
  next entries' hfinite' =>
    rw [chars_obj, chars_obj] at heq
    obtain ⟨rfl, rfl⟩ := partsChars_append_inj hcloses
      (fun entry _ => notHead_entryPart hblank level entry) hparts hfinite hfinite'
      (List.cons.inj heq).2
    exact ⟨rfl, rfl⟩

theorem recognized (hblank : spacing.IsBlank) (hv : FiniteFloats v) :
    Recognized (chars spacing level) FiniteFloats v := by
  induction hv generalizing level with
  | null =>
      intro w r r' hw hr hr' heq
      have hkind := kind_eq_of_chars .null hw heq
      cases w <;> cases hkind
      exact ⟨rfl, List.append_cancel_left heq⟩
  | bool b =>
      intro w r r' hw hr hr' heq
      have hkind := kind_eq_of_chars (.bool b) hw heq
      cases w <;> cases hkind
      exact ⟨rfl, List.append_cancel_left heq⟩
  | int n => exact recognized_int n
  | float hfinite => exact recognized_float hfinite
  | str s =>
      intro w r r' hw hr hr' heq
      have hkind := kind_eq_of_chars (.str s) hw heq
      cases w <;> cases hkind
      obtain ⟨rfl, rfl⟩ := quote_append_inj heq
      exact ⟨rfl, rfl⟩
  | arr hfinite ih => exact recognized_arr hblank hfinite fun item hitem => ih item hitem
  | obj hfinite ih => exact recognized_obj hblank hfinite fun entry hentry => ih entry hentry

/-! ## Documents -/

theorem isBlank_pretty : Spacing.pretty.IsBlank := by
  have hline : ∀ level, ∀ c ∈ breakLine level, c = ' ' ∨ c = '\n' := by
    intro level c hc
    rcases List.mem_cons.mp hc with rfl | hc
    · exact .inr rfl
    · exact .inl (List.eq_of_mem_replicate hc)
  exact ⟨fun level => hline (level + 1), hline⟩

/-- Values that are spread over lines have different texts. -/
theorem pretty_inj (hv : FiniteFloats v) (hw : FiniteFloats w) (heq : pretty v = pretty w) :
    v = w := by
  have hchars : chars .pretty 0 v ++ [] = chars .pretty 0 w ++ [] := by
    rw [List.append_nil, List.append_nil]
    exact String.ofList_injective heq
  exact (recognized isBlank_pretty hv w [] [] hw notHead_nil notHead_nil hchars).1

end Repricing.Json

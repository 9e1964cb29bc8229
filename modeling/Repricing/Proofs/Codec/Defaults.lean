import Repricing.Proofs.Codec.Policies

/-!
# Settings that are left out

A written policy may leave out any settings that have their defaults, at any depth.
-/

namespace Repricing.Json

/-! ## Removing keys -/

mutual

/-- A value without the entries at some paths.  A path lists the keys from the outermost object
inwards. -/
def without (removed : List String → Bool) : Json → Json
  | .obj entries => .obj (entriesWithout removed entries)
  | v => v

/-- The entries of an object without those at some paths. -/
def entriesWithout (removed : List String → Bool) : List (String × Json) → List (String × Json)
  | [] => []
  | (key, v) :: rest =>
    if removed [key] then entriesWithout removed rest
    else (key, without (fun path => removed (key :: path)) v) :: entriesWithout removed rest

end

/-- The value at a path. -/
def at? : List String → Json → Option Json
  | [], v => some v
  | key :: path, v => (v.get? key).bind (at? path)

/-- Whether all that is removed from a value stands in the standard value as well. -/
def RemovesStandard (removed : List String → Bool) (standard v : Json) : Prop :=
  ∀ (key : String) (path : List String) (value : Json), removed (key :: path) = true →
    v.at? (key :: path) = some value → standard.at? (key :: path) = some value

variable {removed : List String → Bool} {entries standards : List (String × Json)}

theorem lookup_entriesWithout (removed : List String → Bool) (entries : List (String × Json))
    (key : String) :
    (entriesWithout removed entries).lookup key =
      if removed [key] then none
      else (entries.lookup key).map (without fun path => removed (key :: path)) := by
  induction entries with
  | nil => simp [entriesWithout]
  | cons entry rest ih =>
      obtain ⟨first, v⟩ := entry
      rw [entriesWithout]
      by_cases hkey : key = first
      · subst hkey
        by_cases hremoved : removed [key]
        · rw [if_pos hremoved, ih, if_pos hremoved, if_pos hremoved]
        · rw [if_neg hremoved, if_neg hremoved, List.lookup_cons_self, List.lookup_cons_self,
            Option.map_some]
      · have hne : (key == first) = false := beq_eq_false_iff_ne.mpr hkey
        rw [List.lookup_cons, hne]
        split
        · exact ih
        · rw [List.lookup_cons, hne]
          exact ih

/-- What is removed inside an entry stands in the standard entry. -/
theorem RemovesStandard.under (hremoves : RemovesStandard removed (.obj standards) (.obj entries))
    {key : String} {v standard : Json} (hv : entries.lookup key = some v)
    (hstandard : standards.lookup key = some standard) :
    RemovesStandard (fun path => removed (key :: path)) standard v := by
  intro inner path value hremoved hvalue
  have hat : (Json.obj entries).at? (key :: inner :: path) = some value := by
    rwa [at?, get?, hv, Option.bind_some]
  have hsame := hremoves key (inner :: path) value hremoved hat
  rwa [at?, get?, hstandard, Option.bind_some] at hsame

/-- An entry that is removed is the standard entry. -/
theorem RemovesStandard.eq (hremoves : RemovesStandard removed (.obj standards) (.obj entries))
    {key : String} {v : Json} (hremoved : removed [key] = true) (hv : entries.lookup key = some v) :
    standards.lookup key = some v := by
  have hat : (Json.obj entries).at? [key] = some v := by
    rw [at?, get?, hv, Option.bind_some, at?]
  have hsame := hremoves key [] v hremoved hat
  rw [at?, get?] at hsame
  obtain ⟨standard, hstandard, heq⟩ := Option.bind_eq_some_iff.mp hsame
  cases heq
  exact hstandard

/-! ## Values that can be left out -/

section Omissible

variable {α : Type} [Encode α]

/-- Whether it makes no difference to reading that keys with their standard values are removed from
what was written. -/
def DefaultsMayBeLeftOut [Decode α] (standard : α) : Prop :=
  ∀ (surplus : Surplus) (a : α) (removed : List String → Bool),
    RemovesStandard removed (encode standard) (encode a) →
      (Decode.decode? surplus ((encode a).without removed) : Option α) =
        Decode.decode? surplus (encode a)

/-- Standard values that can be left out themselves, and in part. -/
structure Omissible [Decode α] [Floats α] (standard : α) : Prop where
  allFinite : AllFinite standard
  decode_without : DefaultsMayBeLeftOut standard

/-- Types that are not written as objects. -/
class NotObject (α : Type) [Encode α] : Prop where
  encode_ne_obj (a : α) (entries : List (String × Json)) : encode a ≠ .obj entries

instance : NotObject Bool := ⟨fun _ _ h => by cases h⟩

instance : NotObject UInt64 := ⟨fun _ _ h => by cases h⟩

instance : NotObject Float where
  encode_ne_obj x entries := by
    change (if x.isFinite then Json.float x else .null) ≠ .obj entries
    split <;> exact Json.noConfusion

instance [NotObject α] : NotObject (Option α) where
  encode_ne_obj o entries := by
    cases o with
    | none => exact Json.noConfusion
    | some a => exact NotObject.encode_ne_obj a entries

instance : NotObject (List α) := ⟨fun _ _ h => by cases h⟩

theorem without_encode [NotObject α] (removed : List String → Bool) (a : α) :
    (encode a).without removed = encode a := by
  rw [without]
  exact NotObject.encode_ne_obj a

theorem entriesWithout_eq_self (hkeep : ∀ entry ∈ entries,
    removed [entry.1] = false ∧ ∀ removed, entry.2.without removed = entry.2) :
    entriesWithout removed entries = entries := by
  induction entries with
  | nil => rfl
  | cons entry rest ih =>
      obtain ⟨⟨hkey, hvalue⟩, hrest⟩ := List.forall_mem_cons.mp hkeep
      rw [entriesWithout, hkey, if_neg Bool.false_ne_true, hvalue, ih hrest]

variable [Decode α] [Floats α]

theorem Omissible.of_notObject [NotObject α] {standard : α} (hfinite : AllFinite standard) :
    Omissible standard where
  allFinite := hfinite
  decode_without surplus a removed _ := by rw [without_encode]

/-- Nothing is left out of a map, since the empty map has nothing in common with it. -/
theorem Omissible.empty [NotObject α] : Omissible (∅ : Std.ExtTreeMap String α) where
  allFinite := allFinite_empty
  decode_without surplus map removed hremoves := by
    have hempty : encode (∅ : Std.ExtTreeMap String α) = .obj [] := by
      change Json.obj ((∅ : Std.ExtTreeMap String α).toList.map _) = _
      rw [Std.ExtTreeMap.toList_eq_nil_iff.mpr rfl, List.map_nil]
    obtain ⟨entries, hentries, hkeep⟩ : ∃ entries, encode map = .obj entries ∧
        ∀ entry ∈ entries, ∀ removed, entry.2.without removed = entry.2 := by
      refine ⟨_, rfl, ?_⟩
      intro entry hentry removed
      obtain ⟨⟨key, a⟩, -, rfl⟩ := List.mem_map.mp hentry
      exact without_encode removed a
    rw [hempty, hentries] at hremoves
    rw [hentries, without, entriesWithout_eq_self]
    intro entry hentry
    refine ⟨Bool.eq_false_of_not_eq_true fun hremoved => ?_, hkeep entry hentry⟩
    obtain ⟨v, hv⟩ := Option.isSome_iff_exists.mp
      (List.lookup_isSome_iff.mpr ⟨entry, hentry, beq_self_eq_true entry.1⟩)
    cases hremoves.eq hremoved hv

end Omissible

/-! ## Fields that are left out -/

/-- The first step of reading two records alike. -/
theorem bind_eq_bind_of_some {α β : Type} {fields fields' : Option α} {a a' : α}
    {rest rest' : α → Option β} (hfields : fields = some a) (hfields' : fields' = some a')
    (hrest : rest a = rest' a') :
    fields.bind rest = fields'.bind rest' := by
  rw [hfields, hfields', Option.bind_some, Option.bind_some, hrest]

/-- One more step of reading two records alike. -/
theorem bind_eq_bind {α β : Type} {field field' : Option α} {rest rest' : α → Option β}
    (hfield : field = field') (hrest : ∀ a, rest a = rest' a) :
    field.bind rest = field'.bind rest' := by
  rw [hfield, funext hrest]

/-- A field is read alike when it is left out because it has its default, and when something in it
is left out. -/
theorem RemovesStandard.withDefault {α : Type} [Encode α] [Decode α] [Floats α] [ReadsBack α]
    {name : String} {standard a : α}
    (hremoves : RemovesStandard removed (.obj standards) (.obj entries))
    (homissible : Omissible standard) (hstandard : standards.lookup name = some (encode standard))
    (hentry : entries.lookup name = some (encode a)) {surplus : Surplus} :
    Fields.withDefault
      { named := true, get? := fun name => (entriesWithout removed entries).lookup name, surplus }
      name standard =
    Fields.withDefault { named := true, get? := fun name => entries.lookup name, surplus }
      name standard := by
  rw [Fields.withDefault, Fields.withDefault]
  dsimp only
  rw [lookup_entriesWithout, hentry]
  -- A field that is gone was written like its default, and a default is read back as itself.
  by_cases hremoved : removed [name] = true
  · have hsame := hremoves.eq hremoved hentry
    rw [hstandard, Option.some_inj] at hsame
    rw [if_pos hremoved, ← hsame]
    exact (decode_encode surplus homissible.allFinite).symm
  · rw [if_neg hremoved]
    exact homissible.decode_without surplus a _ (hremoves.under hentry hstandard)

end Repricing.Json

/-! ## Policies -/

namespace Repricing

open Json (AllFinite DefaultsMayBeLeftOut NotObject Omissible bind_eq_bind bind_eq_bind_of_some)

instance : NotObject Currency := ⟨fun _ _ h => by cases h⟩

theorem MatchWeights.omissible : Omissible ({} : MatchWeights) where
  allFinite := allFinite_standard
  decode_without surplus w removed hremoves := by
    refine bind_eq_bind_of_some rfl rfl ?_
    refine bind_eq_bind (hremoves.withDefault (.of_notObject (by decide)) rfl rfl) fun _ => ?_
    refine bind_eq_bind (hremoves.withDefault (.of_notObject (by decide)) rfl rfl) fun _ => ?_
    refine bind_eq_bind (hremoves.withDefault (.of_notObject (by decide)) rfl rfl) fun _ => ?_
    rfl

theorem MatchSettings.omissible : Omissible ({} : MatchSettings) where
  allFinite := allFinite_standard
  decode_without surplus s removed hremoves := by
    refine bind_eq_bind_of_some rfl rfl ?_
    refine bind_eq_bind (hremoves.withDefault (.of_notObject (by decide)) rfl rfl) fun _ => ?_
    refine bind_eq_bind (hremoves.withDefault (.of_notObject (by decide)) rfl rfl) fun _ => ?_
    refine bind_eq_bind (hremoves.withDefault (.of_notObject (by decide)) rfl rfl) fun _ => ?_
    refine bind_eq_bind (hremoves.withDefault MatchWeights.omissible rfl rfl) fun _ => ?_
    rfl

theorem ReconcilePolicy.omissible : Omissible ({} : ReconcilePolicy) where
  allFinite := allFinite_standard
  decode_without surplus p removed hremoves := by
    refine bind_eq_bind_of_some rfl rfl ?_
    refine bind_eq_bind (hremoves.withDefault (.of_notObject (by decide)) rfl rfl) fun _ => ?_
    refine bind_eq_bind (hremoves.withDefault (.of_notObject (by decide)) rfl rfl) fun _ => ?_
    refine bind_eq_bind (hremoves.withDefault (.of_notObject (by decide)) rfl rfl) fun _ => ?_
    refine bind_eq_bind (hremoves.withDefault (.of_notObject (by decide)) rfl rfl) fun _ => ?_
    refine bind_eq_bind (hremoves.withDefault .empty rfl rfl) fun _ => ?_
    rfl

theorem ImportOptions.omissible : Omissible ({} : ImportOptions) where
  allFinite := allFinite_standard
  decode_without surplus o removed hremoves := by
    refine bind_eq_bind_of_some rfl rfl ?_
    refine bind_eq_bind (hremoves.withDefault (.of_notObject (by decide)) rfl rfl) fun _ => ?_
    refine bind_eq_bind (hremoves.withDefault (.of_notObject (by decide)) rfl rfl) fun _ => ?_
    refine bind_eq_bind (hremoves.withDefault (.of_notObject (by decide)) rfl rfl) fun _ => ?_
    refine bind_eq_bind (hremoves.withDefault (.of_notObject (by decide)) rfl rfl) fun _ => ?_
    refine bind_eq_bind (hremoves.withDefault (.of_notObject (by decide)) rfl rfl) fun _ => ?_
    rfl

theorem ImportPolicy.omissible : Omissible ({} : ImportPolicy) where
  allFinite := allFinite_standard
  decode_without surplus p removed hremoves := by
    refine bind_eq_bind_of_some rfl rfl ?_
    refine bind_eq_bind (hremoves.withDefault MatchSettings.omissible rfl rfl) fun _ => ?_
    refine bind_eq_bind (hremoves.withDefault ReconcilePolicy.omissible rfl rfl) fun _ => ?_
    refine bind_eq_bind (hremoves.withDefault ImportOptions.omissible rfl rfl) fun _ => ?_
    rfl

/-! ## Reading undoes writing -/

open Json (Decode Encode Floats Proper ReadsBack RemovesStandard Surplus decode_encode encode
  finite_of_decode)

/-- Whether reading undoes writing: what a JSON value is read as is read again from its own JSON
form, and so is every value whose doubles are finite. -/
structure ReadingUndoesWriting (α : Type) [Encode α] [Decode α] [Floats α] : Prop where
  of_decode (surplus surplus' : Surplus) (v : Json) (a : α) (hproper : v.Proper)
    (hdecode : Decode.decode? surplus v = some a) : Decode.decode? surplus' (encode a) = some a
  of_finite (surplus : Surplus) (a : α) (hfinite : AllFinite a) :
    Decode.decode? surplus (encode a) = some a

theorem readingUndoesWriting {α : Type} [Encode α] [Decode α] [Floats α] [ReadsBack α] :
    ReadingUndoesWriting α where
  of_decode _ surplus' _ _ hproper hdecode :=
    decode_encode surplus' (finite_of_decode hproper hdecode)
  of_finite surplus _ hfinite := decode_encode surplus hfinite

/-- Reading undoes writing for every type that is both written and read, and written policies may
leave out what has its default. -/
theorem decode_encode_all :
    ReadingUndoesWriting Currency ∧ ReadingUndoesWriting Money ∧
    ReadingUndoesWriting CatalogId ∧ ReadingUndoesWriting BatchId ∧
    ReadingUndoesWriting CatalogEntry ∧ ReadingUndoesWriting RawRow ∧
    ReadingUndoesWriting Item ∧ ReadingUndoesWriting SupplierProfile ∧
    ReadingUndoesWriting RowError ∧ ReadingUndoesWriting RowErrorKind ∧
    ReadingUndoesWriting PriceField ∧ ReadingUndoesWriting MatchField ∧
    ReadingUndoesWriting MatchWeights ∧ ReadingUndoesWriting MatchSettings ∧
    ReadingUndoesWriting ReconcilePolicy ∧ ReadingUndoesWriting ImportOptions ∧
    ReadingUndoesWriting ImportPolicy ∧
    DefaultsMayBeLeftOut ({} : MatchSettings) ∧ DefaultsMayBeLeftOut ({} : ReconcilePolicy) ∧
    DefaultsMayBeLeftOut ({} : ImportOptions) ∧ DefaultsMayBeLeftOut ({} : ImportPolicy) := by
  refine ⟨readingUndoesWriting, readingUndoesWriting, readingUndoesWriting, readingUndoesWriting,
    readingUndoesWriting, readingUndoesWriting, readingUndoesWriting, readingUndoesWriting,
    readingUndoesWriting, readingUndoesWriting, readingUndoesWriting, readingUndoesWriting,
    readingUndoesWriting, readingUndoesWriting, readingUndoesWriting, readingUndoesWriting,
    readingUndoesWriting, ?_, ?_, ?_, ?_⟩
  · exact MatchSettings.omissible.decode_without
  · exact ReconcilePolicy.omissible.decode_without
  · exact ImportOptions.omissible.decode_without
  · exact ImportPolicy.omissible.decode_without

/-- A price with a whole amount and a currency code that has to be put in order, and settings from
which two keys with their defaults are removed, one of them inside the weights. -/
theorem decode_encode_all_sample :
    let v := Json.obj [("amount", .int 750), ("currency", .str " rub ")]
    let price : Money := { amount := 750.0, currency := .rub }
    let settings : MatchSettings := { topK := 5 }
    let removed := fun path => path == ["threshold"] || path == ["weights", "title"]
    (v.Proper ∧ Decode.decode? .refused v = some price ∧
      Decode.decode? .refused (encode price) = some price) ∧
    RemovesStandard removed (encode ({} : MatchSettings)) (encode settings) ∧
    ((encode settings).without removed).at? ["threshold"] = none ∧
    ((encode settings).without removed).at? ["weights", "title"] = none ∧
    Decode.decode? .refused ((encode settings).without removed) = some settings := by
  intro v price settings removed
  obtain ⟨-, hprice, -, -, -, -, -, -, -, -, -, -, -, hsettings, -, -, -, hleft, -, -, -⟩ :=
    decode_encode_all
  have hproper : v.Proper := by
    refine .obj (List.forall_mem_cons.mpr ⟨.int (by decide) (by decide), ?_⟩)
    exact List.forall_mem_singleton.mpr (.str _)
  have hread : Decode.decode? .refused v = some price := by decide +kernel
  have hremoves : RemovesStandard removed (encode ({} : MatchSettings)) (encode settings) := by
    intro key path value hremoved hvalue
    rw [← hvalue]
    rcases Bool.or_eq_true_iff.mp hremoved with hpath | hpath
    · rw [eq_of_beq hpath]
      rfl
    · rw [eq_of_beq hpath]
      rfl
  refine ⟨⟨hproper, hread, hprice.of_decode _ _ v price hproper hread⟩, hremoves, rfl, rfl, ?_⟩
  rw [hleft .refused settings removed hremoves]
  exact hsettings.of_finite .refused settings (by decide)

end Repricing

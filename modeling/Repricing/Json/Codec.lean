import Repricing.Json.Basic
import Std.Data.ExtTreeMap

/-!
# Types with a JSON form

A record is written as an object with its fields in order. It is read from an object, in which
unknown keys do not count, or from an array of the fields in order. A name of an enumeration is
read from its text, or from an object with the name as its only key and `null` under it.
-/

namespace Repricing.Json

/-- Types whose values can be written as JSON. -/
class Encode (α : Type) where
  encode : α → Json

export Encode (encode)

/-- What becomes of the items of an array beyond the last field of a record. -/
inductive Surplus where
  | refused
  | ignored
deriving DecidableEq, Repr

/-- Types whose values can be read from JSON. -/
class Decode (α : Type) where
  decode? : Surplus → Json → Option α

/-- Reads a value; a record refuses surplus items. -/
def decode? {α : Type} [Decode α] (v : Json) : Option α :=
  Decode.decode? .refused v

instance : Encode Bool := ⟨.bool⟩

instance : Decode Bool where
  decode? _
    | .bool b => some b
    | _ => none

instance : Encode String := ⟨.str⟩

instance : Decode String where
  decode? _
    | .str s => some s
    | _ => none

/-- Infinities and what is no number are written as `null`. -/
instance : Encode Float where
  encode x := if x.isFinite then .float x else .null

/-- Whole numbers are read as the nearest double. -/
instance : Decode Float where
  decode? _
    | .int n => some (Float.ofInt n)
    | .float x => some x
    | _ => none

instance : Encode Nat where
  encode n := .int n

instance : Encode UInt64 where
  encode n := .int n.toNat

instance : Decode UInt64 where
  decode? _
    | .int n => if 0 ≤ n ∧ n < UInt64.size then some (UInt64.ofNat n.toNat) else none
    | _ => none

instance : Encode UInt32 where
  encode n := .int n.toNat

instance : Decode UInt32 where
  decode? _
    | .int n => if 0 ≤ n ∧ n < UInt32.size then some (UInt32.ofNat n.toNat) else none
    | _ => none

instance : Encode Int32 where
  encode n := .int n.toInt

instance : Decode Int32 where
  decode? _
    | .int n =>
      if Int32.minValue.toInt ≤ n ∧ n ≤ Int32.maxValue.toInt then some (Int32.ofInt n) else none
    | _ => none

instance {α : Type} [Encode α] : Encode (Option α) where
  encode
    | none => .null
    | some a => encode a

instance {α : Type} [Decode α] : Decode (Option α) where
  decode? surplus
    | .null => some none
    | v => (Decode.decode? surplus v).map some

instance {α : Type} [Encode α] : Encode (List α) where
  encode as := .arr (as.map encode)

instance {α : Type} [Decode α] : Decode (List α) where
  decode? surplus
    | .arr items => items.mapM (Decode.decode? surplus)
    | _ => none

/-- Writes a map as an object, in the order of its keys. -/
def encodeMap {α : Type} [Encode α] (map : Std.ExtTreeMap String α) : Json :=
  .obj (map.toList.map fun (key, a) => (key, encode a))

/-- Reads the value of an entry. -/
def decodeBinding? {α : Type} [Decode α] (surplus : Surplus) (entry : String × Json) :
    Option (String × α) :=
  (Decode.decode? surplus entry.2).map fun a => (entry.1, a)

instance {α : Type} [Decode α] : Decode (Std.ExtTreeMap String α) where
  decode? surplus
    | .obj entries => (entries.mapM (decodeBinding? surplus)).map fun pairs => .ofList pairs
    | _ => none

/-- Reads a name of an enumeration. -/
def decodeName? {α : Type} (ofName? : String → Option α) : Json → Option α
  | .str name => ofName? name
  | .obj [(name, .null)] => ofName? name
  | _ => none

/-- The fields of a record as they were given. -/
structure Fields where
  /-- Whether they were given by name, and not in order. -/
  named : Bool
  /-- The field of a name, if it was given. -/
  get? : String → Option Json
  /-- What becomes of surplus items in the fields themselves. -/
  surplus : Surplus

/-- The fields of a record whose fields have these names, in this order. -/
def fields? (names : List String) (surplus : Surplus) : Json → Option Fields
  | .obj entries => some { named := true, get? := fun name => entries.lookup name, surplus }
  | .arr items =>
    if surplus = .refused ∧ names.length < items.length then none
    else some { named := false, get? := fun name => (names.zip items).lookup name, surplus }
  | _ => none

namespace Fields

variable {α : Type} [Decode α]

/-- A field that has to be given. -/
def required (fields : Fields) (name : String) : Option α :=
  (fields.get? name).bind (Decode.decode? fields.surplus)

/-- A field that has a value of its own when it is not given. -/
def withDefault (fields : Fields) (name : String) (default : α) : Option α :=
  match fields.get? name with
  | none => some default
  | some v => Decode.decode? fields.surplus v

/-- A field that may be left out by name but not in order. -/
def optional (fields : Fields) (name : String) : Option (Option α) :=
  match fields.get? name with
  | none => if fields.named then some none else none
  | some v => Decode.decode? fields.surplus v

end Fields

end Repricing.Json

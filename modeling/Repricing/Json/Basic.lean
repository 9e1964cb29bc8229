/-!
# JSON values

Numbers keep apart whole numbers and doubles, since `1` fits a counter and `1.0` does not. The
entries of an object keep the order in which they were written.
-/

namespace Repricing

/-- A JSON value. A double that is no number has no JSON text of its own and is written as `null`. -/
inductive Json where
  | null
  | bool (value : Bool)
  | int (value : Int)
  | float (value : Float)
  | str (value : String)
  | arr (items : List Json)
  | obj (entries : List (String × Json))
deriving Inhabited, Repr

namespace Json

/-- The entry of an object under a key. -/
def get? (key : String) : Json → Option Json
  | .obj entries => entries.lookup key
  | _ => none

/-- The entries with one more, which takes the place of an earlier one under its key. -/
def insertEntry (entries : List (String × Json)) (key : String) (value : Json) :
    List (String × Json) :=
  if entries.any (·.1 == key) then
    entries.map fun entry => if entry.1 == key then (key, value) else entry
  else entries ++ [(key, value)]

end Json

end Repricing

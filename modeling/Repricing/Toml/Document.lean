import Repricing.Toml.Scalar
import Repricing.Toml.Table

/-!
# TOML: documents

A document is read line by line. Every line is empty, a header, or a key with its value.
-/

namespace Repricing.Toml

open Json (Parse)

mutual

/-- A value. Arrays and inline tables are nested no deeper than `depth`. -/
def value : (fuel depth : Nat) → Parse Json
  | 0, _, _ => none
  | fuel + 1, depth, cs =>
    match cs with
    | '"' :: _ | '\'' :: _ => (string cs).map fun (s, rest) => (.str s, rest)
    | '[' :: rest =>
      match depth with
      | 0 => none
      | depth + 1 => (items fuel depth [] rest).map fun (read, rest) => (.arr read, rest)
    | '\x7b' :: rest =>
      match depth with
      | 0 => none
      | depth + 1 =>
        match skipBlanks rest with
        | '\x7d' :: rest => some (.obj [], rest)
        | rest => (pairs fuel depth [] rest).map fun (read, rest) =>
          (.obj (entriesToJson read), rest)
    | 't' :: 'r' :: 'u' :: 'e' :: rest => some (.bool true, rest)
    | 'f' :: 'a' :: 'l' :: 's' :: 'e' :: rest => some (.bool false, rest)
    | _ => number cs

/-- The rest of an array, after the items that have been read (in reverse). -/
def items : (fuel depth : Nat) → List Json → Parse (List Json)
  | 0, _, _, _ => none
  | fuel + 1, depth, read, cs =>
    match skipFill false cs with
    | ']' :: rest => some (read.reverse, rest)
    | cs =>
      match value fuel depth cs with
      | none => none
      | some (item, rest) =>
        match skipFill false rest with
        | ',' :: rest => items fuel depth (item :: read) rest
        | ']' :: rest => some ((item :: read).reverse, rest)
        | _ => none

/-- The rest of an inline table, after the entries that have been read. -/
def pairs : (fuel depth : Nat) → Entries → Parse Entries
  | 0, _, _, _ => none
  | fuel + 1, depth, read, cs =>
    match key cs with
    | none => none
    | some ((path, last), rest) =>
      match (expect '=' rest).bind fun rest => value fuel depth (skipBlanks rest) with
      | none => none
      | some (v, rest) =>
        match read.assign? path last v .header with
        | none => none
        | some read =>
          match skipBlanks rest with
          | ',' :: rest => pairs fuel depth read rest
          | '\x7d' :: rest => some (read, rest)
          | _ => none

end

/-- What has been read of a document: its tables, and the path of the header that was read last. -/
structure Progress where
  root : Entries
  path : List String

namespace Progress

/-- Sets a key in the table of the last header. -/
def assign? (progress : Progress) (path : List String) (key : String) (v : Json) :
    Option Progress :=
  (Entries.change false (Entries.assign? path key v) progress.path .header progress.root).map
    fun root => { progress with root }

end Progress

/-- Reads a header of an array of tables, after its opening brackets. -/
def elementLine (progress : Progress) (cs : List Char) : Option (Progress × List Char) := do
  let ((path, last), rest) ← key cs
  let rest ← expect ']' rest
  let rest ← expect ']' rest
  let rest ← lineEnd? rest
  let root ← progress.root.openElement? path last
  return ({ root, path := path ++ [last] }, rest)

/-- Reads a header of a table, after its opening bracket. -/
def tableLine (progress : Progress) (cs : List Char) : Option (Progress × List Char) := do
  let ((path, last), rest) ← key cs
  let rest ← expect ']' rest
  let rest ← lineEnd? rest
  let root ← progress.root.openTable? path last
  return ({ root, path := path ++ [last] }, rest)

/-- Reads a key and its value. -/
def pairLine (progress : Progress) (cs : List Char) : Option (Progress × List Char) := do
  let ((path, last), rest) ← key cs
  let rest ← expect '=' rest
  let (v, rest) ← value (cs.length + 1) maxDepth (skipBlanks rest)
  let rest ← lineEnd? rest
  let progress ← progress.assign? path last v
  return (progress, rest)

/-- Reads one line. -/
def line (progress : Progress) (cs : List Char) : Option (Progress × List Char) :=
  match cs with
  | '[' :: '[' :: rest => elementLine progress rest
  | '[' :: rest => tableLine progress rest
  | '#' :: _ | '\n' :: _ | '\r' :: _ => (lineEnd? cs).map fun rest => (progress, rest)
  | _ => pairLine progress cs

/-- Reads line by line to the end. Every line uses up a character, so as much `fuel` as there are
characters is enough. -/
def lines : (fuel : Nat) → Progress → List Char → Option Progress
  | 0, _, _ => none
  | fuel + 1, progress, cs =>
    match skipBlanks cs with
    | [] => some progress
    | cs =>
      match line progress cs with
      | none => none
      | some (progress, rest) => lines fuel progress rest

/-- Reads a document as an object. A byte order mark may stand in front of it. -/
def read? (s : String) : Option Json :=
  let cs := match s.toList with
    | '\uFEFF' :: rest => rest
    | cs => cs
  (lines (cs.length + 1) { root := [], path := [] } cs).map fun progress =>
    .obj (entriesToJson progress.root)

end Repricing.Toml

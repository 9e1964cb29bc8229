import Repricing.Json.Reader

/-!
# TOML: characters, strings and keys

The smallest parts of a configuration document. Every reader takes what it reads from the front of
the characters and gives back the rest.
-/

namespace Repricing.Toml

open Json (Parse)

/-- Blanks within a line. -/
def isBlank (c : Char) : Bool :=
  c == ' ' || c == '\t'

/-- Characters that may stand in comments and strings: all but control characters, save the tab. -/
def isPlain (c : Char) : Bool :=
  c == '\t' || (0x20 ≤ c.toNat && c.toNat ≠ 0x7F)

/-- Drops blanks. -/
def skipBlanks (cs : List Char) : List Char :=
  cs.dropWhile isBlank

/-- A line break, with a carriage return before it or not. -/
def lineBreak? : List Char → Option (List Char)
  | '\n' :: rest => some rest
  | '\r' :: '\n' :: rest => some rest
  | _ => none

/-- Drops blanks and a comment, up to a line break or the end of the document. -/
def lineEnd? (cs : List Char) : Option (List Char) :=
  let rest := match skipBlanks cs with
    | '#' :: rest => rest.dropWhile isPlain
    | rest => rest
  if rest.isEmpty then some [] else lineBreak? rest

/-- Drops blanks, line breaks and comments. A comment goes on up to the first character that may not
stand in it. -/
def skipFill (inComment : Bool) : List Char → List Char
  | [] => []
  | c :: rest =>
    if inComment && isPlain c then skipFill true rest
    else if isBlank c || c == '\n' then skipFill false rest
    else if c == '\r' && rest.head? == some '\n' then skipFill false rest
    else if c == '#' then skipFill true rest
    else c :: rest

/-- Drops blanks and line breaks. -/
def skipSpace : List Char → List Char
  | [] => []
  | c :: rest =>
    if isBlank c || c == '\n' then skipSpace rest
    else if c == '\r' && rest.head? == some '\n' then skipSpace rest
    else c :: rest

/-- The character with the code point that `count` hexadecimal digits denote. -/
def codePoint (count : Nat) (cs : List Char) : Option (Char × List Char) := do
  let ds := cs.take count
  if ds.length < count then none
  let code ← ds.foldlM (fun n c => (Json.hexValue? c).map (16 * n + ·)) 0
  if h : code.isValidChar then return (Char.ofNatAux code h, cs.drop count) else none

/-- The character that a backslash and what follows it stand for. -/
def escape : List Char → Option (Char × List Char)
  | 'u' :: rest => codePoint 4 rest
  | 'U' :: rest => codePoint 8 rest
  | 'b' :: rest => some ('\x08', rest)
  | 'f' :: rest => some ('\x0C', rest)
  | 'n' :: rest => some ('\n', rest)
  | 'r' :: rest => some ('\r', rest)
  | 't' :: rest => some ('\t', rest)
  | '"' :: rest => some ('"', rest)
  | '\\' :: rest => some ('\\', rest)
  | _ => none

/-- The rest of a string on one line, after its opening quote. Escapes are understood if the quote is
a double one. -/
def lineString (quote : Char) : (fuel : Nat) → List Char → Parse (List Char)
  | 0, _, _ => none
  | _, _, [] => none
  | fuel + 1, read, c :: rest =>
    if c = quote then some (read.reverse, rest)
    else if c = '\\' ∧ quote = '"' then
      match escape rest with
      | some (d, rest) => lineString quote fuel (d :: read) rest
      | none => none
    else if isPlain c then lineString quote fuel (c :: read) rest
    else none

/-- The rest of a string over several lines, after its three opening quotes and the line break after
them. Three quotes end it; up to two more quotes before the end belong to it. A backslash at the end
of a line drops the line break and the blanks after it. -/
def blockString (quote : Char) : (fuel : Nat) → List Char → Parse (List Char)
  | 0, _, _ => none
  | _, _, [] => none
  | fuel + 1, read, c :: rest =>
    if c = quote then
      let quotes := ((c :: rest).takeWhile (· = quote)).length
      if quotes < 3 then blockString quote fuel (c :: read) rest
      else
        let inside := min (quotes - 3) 2
        some ((List.replicate inside quote ++ read).reverse, rest.drop (inside + 2))
    else if c = '\\' ∧ quote = '"' then
      match lineBreak? (skipBlanks rest) with
      | some rest => blockString quote fuel read (skipSpace rest)
      | none =>
        match escape rest with
        | some (d, rest) => blockString quote fuel (d :: read) rest
        | none => none
    else if c = '\n' then blockString quote fuel (c :: read) rest
    else if c = '\r' then
      match rest with
      | '\n' :: rest => blockString quote fuel ('\n' :: read) rest
      | _ => none
    else if isPlain c then blockString quote fuel (c :: read) rest
    else none

/-- A string after its opening quote. -/
def shortString (quote : Char) (cs : List Char) : Option (String × List Char) :=
  (lineString quote (cs.length + 1) [] cs).map fun (read, rest) => (String.ofList read, rest)

/-- A string of either kind. -/
def string (cs : List Char) : Option (String × List Char) :=
  match cs with
  | q :: rest =>
    if q = '"' ∨ q = '\'' then
      match rest with
      | r :: s :: block =>
        if r = q ∧ s = q then
          let block := (lineBreak? block).getD block
          (blockString q (block.length + 1) [] block).map fun (read, rest) =>
            (String.ofList read, rest)
        else shortString q rest
      | _ => shortString q rest
    else none
  | [] => none

/-- Characters of keys without quotes. -/
def isKeyChar (c : Char) : Bool :=
  c.isAlphanum || c == '_' || c == '-'

/-- A key without dots. -/
def simpleKey : List Char → Option (String × List Char)
  | '"' :: rest => shortString '"' rest
  | '\'' :: rest => shortString '\'' rest
  | cs =>
    let (key, rest) := cs.span isKeyChar
    if key.isEmpty then none else some (String.ofList key, rest)

/-- The keys of a dotted key, with blanks around each. -/
def keyParts : (fuel : Nat) → Parse (List String)
  | 0, _ => none
  | fuel + 1, cs =>
    match simpleKey (skipBlanks cs) with
    | none => none
    | some (key, rest) =>
      match skipBlanks rest with
      | '.' :: rest => (keyParts fuel rest).map fun (keys, rest) => (key :: keys, rest)
      | rest => some ([key], rest)

/-- How deep tables and arrays may be nested, and how many parts a key may have. -/
def maxDepth : Nat := 79

/-- A dotted key: the keys of the tables that it leads through, and the last key. -/
def key (cs : List Char) : Option ((List String × String) × List Char) :=
  match keyParts (cs.length + 1) cs with
  | none => none
  | some (keys, rest) =>
    match keys.getLast? with
    | some last => if keys.length ≤ maxDepth then some ((keys.dropLast, last), rest) else none
    | none => none

end Repricing.Toml

/-!
# Words

Words are the longest runs of characters between spaces. Only the plain space U+0020 separates
them.
-/

namespace Repricing.Text

/-- The characters up to the first space, and the words after it. -/
def firstWord : List Char → List Char × List (List Char)
  | [] => ([], [])
  | c :: rest =>
    let (word, words) := firstWord rest
    if c = ' ' then ([], if word.isEmpty then words else word :: words) else (c :: word, words)

/-- The words of a text, in order. -/
def words (cs : List Char) : List (List Char) :=
  let (word, words) := firstWord cs
  if word.isEmpty then words else word :: words

/-- The words with one space between neighbours. -/
def unwords (ws : List (List Char)) : List Char :=
  [' '].intercalate ws

end Repricing.Text

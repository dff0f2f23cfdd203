/-!
Text cut into pieces at a separator, and text put together again.
-/

namespace StorageCompat.Text

def pieces (separator : Char) : List Char → List (List Char)
  | [] => [[]]
  | character :: rest =>
      if character = separator then [] :: pieces separator rest
      else
        match pieces separator rest with
        | [] => [[character]]
        | piece :: others => (character :: piece) :: others

def cut? (separator : Char) : List Char → Option (List Char × List Char)
  | [] => none
  | character :: rest =>
      if character = separator then some ([], rest)
      else (cut? separator rest).map fun parts => (character :: parts.1, parts.2)

/-- As `piecesAt`, but the next `skip` characters belong to an occurrence of the word. -/
def piecesFrom (word : List Char) : (skip : Nat) → List Char → List (List Char)
  | _, [] => [[]]
  | skip + 1, _ :: rest => piecesFrom word skip rest
  | 0, character :: rest =>
      if word.isPrefixOf (character :: rest) then [] :: piecesFrom word (word.length - 1) rest
      else
        match piecesFrom word 0 rest with
        | [] => [[character]]
        | piece :: others => (character :: piece) :: others

def piecesAt (word text : List Char) : List (List Char) := piecesFrom word 0 text

def occurrences (word text : List Char) : Nat := (piecesAt word text).length - 1

/-- Text cut in two at one of the occurrences of a word; the first has the number zero. -/
def cutAt? (word : List Char) (number : Nat) (text : List Char) :
    Option (List Char × List Char) :=
  match (piecesAt word text).splitAt (number + 1) with
  | (_, []) => none
  | (before, after) => some (word.intercalate before, word.intercalate after)

end StorageCompat.Text

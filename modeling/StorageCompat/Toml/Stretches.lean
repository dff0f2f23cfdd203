import StorageCompat.Text.Pieces

/-!
A line as the stretches outside and inside of quotes, in turn. Marks of the one kind inside
marks of the other are part of the text between those. Which kind a line is divided by first
is decided by what stands in front of its first double quote.
-/

namespace StorageCompat.Toml

def isQuote (character : Char) : Bool := character = '"' || character = '\''

def inside (text : List Char) : List Char := (text.drop 1).dropLast

/-- A text that ends at this point, given from its end on, ends in a backslash that escapes
what follows: the backslashes at the end are odd in number. -/
def escapesNext (behind : List Char) : Bool :=
  (behind.takeWhile (· == '\\')).length % 2 == 1

def endsInThree (mark : Char) (text : List Char) : Bool :=
  3 ≤ text.length &&
    (text.reverse.take 3).all (· == mark)

/-- As long as the stretches so far end inside of single quotes, the next piece between
double quotes belongs to the last of them. -/
def closeSingle : (stretches pieces : List (List Char)) → List (List Char) × List (List Char)
  | stretches, [] => (stretches, [])
  | stretches, piece :: rest =>
      if stretches.length % 2 = 0 then
        let last := stretches.getLastD [] ++ '"' :: piece
        closeSingle (stretches.dropLast ++ Text.pieces '\'' last) rest
      else (stretches, piece :: rest)

def ofPieces : List (List Char) → List (List Char)
  | [] => []
  | piece :: rest => Text.pieces '\'' piece ++ rest

def stretches (line : List Char) : List (List Char) :=
  match Text.pieces '"' line with
  | first :: second :: rest =>
      if first.contains '\'' then
        let (closed, rest) := closeSingle (Text.pieces '\'' first) (second :: rest)
        closed ++ ofPieces rest
      else ofPieces (first :: second :: rest)
  | pieces => ofPieces pieces

def occurrencesBefore (word : List Char) : (quoted : Bool) → List (List Char) → Nat
  | _, [] => 0
  | quoted, stretch :: rest =>
      let here := Text.occurrences word stretch
      if !quoted && here != 0 then 0
      else here + occurrencesBefore word (!quoted) rest

end StorageCompat.Toml

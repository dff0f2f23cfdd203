import StorageCompat.Text.Blank
import StorageCompat.Toml.Refusal
import StorageCompat.Toml.Stretches

/-!
Lists and inline tables cut into the texts of their items. A list of lists is cut at the
commas outside of inner brackets, a list of tables at the braces that close them, and any
other list at all commas; there, pieces of a text between quotes are put together again. The
assignments of an inline table are put together until the value of each is whole.
-/

namespace StorageCompat.Toml

def startsWithQuote (text : List Char) : Bool :=
  ((Text.stripBlanks text).head?.map isQuote).getD false

def holdsLists (content : List Char) : Bool :=
  (Text.cut? '[' content).any fun parts => (Text.stripBlanks parts.1).isEmpty

def cutOutside : (depth : Int) → List Char → List (List Char)
  | _, [] => [[]]
  | depth, character :: rest =>
      if character = ',' && depth = 0 then [] :: cutOutside depth rest
      else
        let depth :=
          if character = '[' then depth + 1
          else if character = ']' then depth - 1
          else depth
        match cutOutside depth rest with
        | [] => [[character]]
        | piece :: others => (character :: piece) :: others

/-- An inline table in a list, as far as it was read: its characters, the last one first, the
braces that are open, and whether a text between quotes is. -/
structure OpenTable where
  characters : List Char
  depth : Nat
  quoted : Bool

def OpenTable.quotedBehind (table : OpenTable) (character : Char) : Bool :=
  if isQuote character then !table.quoted || escapesNext table.characters else table.quoted

/-- The inline tables of a list. The character behind one divides it from the next, whatever
character that is. What else stands between them counts for nothing, and so does one that is
not closed. -/
def cutTables : Option OpenTable → List Char → List (List Char)
  | _, [] => []
  | none, character :: rest =>
      cutTables (if character = '\x7b' then some ⟨[character], 1, false⟩ else none) rest
  | some table, character :: rest =>
      let quoted := table.quotedBehind character
      let characters := character :: table.characters
      if !quoted && character = '\x7b' then
        cutTables (some ⟨characters, table.depth + 1, quoted⟩) rest
      else if quoted || character != '\x7d' then
        cutTables (some ⟨characters, table.depth, quoted⟩) rest
      else if 1 < table.depth then
        cutTables (some ⟨characters, table.depth - 1, quoted⟩) rest
      else
        match rest with
        | [] => [characters.reverse]
        | _ :: rest => characters.reverse :: cutTables none rest

def isBounded (text : List Char) : Bool :=
  match text, text.reverse with
  | first :: _, last :: before => first = last && !escapesNext before.dropLast
  | _, _ => true

def lacksTriple : List Char → Bool
  | first :: second :: third :: rest =>
      let text := first :: second :: third :: rest
      let ending := (text.reverse.drop 1).take 2
      second = first && third = first && !ending.contains first
  | _ => false

def isTorn (piece : List Char) : Bool :=
  let text := Text.stripBlanks piece
  !isBounded text || lacksTriple text

/-- The items of a list of texts from its pieces. The last piece is taken as it is, unless it
was put together from several. -/
def joinTorn : (joined : Bool) → (current : List Char) → List (List Char) →
    Reading (List (List Char))
  | joined, current, [] =>
      if joined && isTorn current then .error .absent else .ok [current]
  | _, current, next :: rest =>
      if isTorn current then joinTorn true (current ++ ',' :: next) rest
      else do
        let others ← joinTorn false next rest
        return current :: others

def listItems (text : List Char) : Reading (List (List Char)) :=
  let content := inside (Text.stripBlanks text)
  if holdsLists content then .ok (cutOutside 0 content)
  else if (Text.stripBlanks content).head? = some '\x7b' then .ok (cutTables none content)
  else
    match startsWithQuote content, Text.pieces ',' content with
    | true, first :: rest => joinTorn false first rest
    | _, pieces => .ok pieces

def isWhole (value : List Char) : Reading Bool :=
  match value, value.getLast? with
  | first :: _, some last =>
      .ok ((isQuote first && first = last) || first.isDigit || first = '-' ||
        value = "true".toList || value = "false".toList ||
        (first = '[' && last = ']') || (first = '\x7b' && last = '\x7d'))
  | _, _ => .error .absent

def joinAssignments : (current : List Char) → List (List Char) → Reading (List (List Char))
  | current, rest => do
      let (_, value) ← required (Text.cut? '=' current)
      match ← isWhole (Text.stripBlanks value), rest with
      | true, [] => return [current]
      | true, next :: rest =>
          let others ← joinAssignments next rest
          return current :: others
      | false, next :: rest => joinAssignments (current ++ ',' :: next) rest
      | false, [] => throw .malformed
termination_by structural _ rest => rest

def tableItems (text : List Char) : Reading (List (List Char)) :=
  match Text.pieces ',' (inside text) with
  | [] => .ok []
  | [only] => if (Text.stripBlanks only).isEmpty then .ok [] else joinAssignments only []
  | first :: rest => joinAssignments first rest

end StorageCompat.Toml

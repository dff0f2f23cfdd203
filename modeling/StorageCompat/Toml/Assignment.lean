import StorageCompat.Toml.Moment
import StorageCompat.Toml.Number
import StorageCompat.Toml.Quoted

/-!
Assignments: a name, an equals sign and a value. Which equals sign divides the two is decided
by what follows it. A name with dots goes through tables, which are made where there are
none. A value may start a text that goes on on the next line; the assignment is then left
pending.
-/

namespace StorageCompat.Toml

inductive Kind where
  | bool
  | text
  | int
  | float
  | date
  | time
  | list
  | table
  deriving DecidableEq

def readScalar (wellPlaced : Bool) (text : List Char) : Reading (Value × Kind) := do
  match clock? text with
  | some clock =>
      let time ← required clock.toValue?
      return (time, .time)
  | none =>
      match ← readDate text with
      | some date => return (date, .date)
      | none =>
          if !wellPlaced then throw .malformed
          let number ← required (readNumber text)
          match number with
          | .float _ => return (number, .float)
          | _ => return (number, .int)

/-- What follows an equals sign may be a value: nothing does, or a blank or the start of a
text, list or table, or a value of one word. -/
def standsAlone (text : List Char) : Reading Bool := do
  let starts := text.isEmpty ||
    text.head?.any fun first => [' ', '\t', '\'', '"', '[', '\x7b'].contains first
  let word := Text.stripBlanks text
  if starts || word = "true".toList || word = "false".toList then return true
  else if (Numeral.float? text).isSome then return true
  else if (← readDate text).isSome then return true
  else return (clock? text).isSome

structure Division where
  name : List Char
  value : List Char
  /-- A number in it is well placed, and so is all that was tried before it. -/
  wellPlaced : Bool

def cuts : List Char → List (List Char × List Char)
  | [] => []
  | character :: rest =>
      let others := (cuts rest).map fun parts => (character :: parts.1, parts.2)
      if character = '=' then ([], rest) :: others else others

def chooseCut : (wellPlaced : Bool) → List (List Char × List Char) → Reading Division
  | _, [] => .error .malformed
  | wellPlaced, (name, value) :: more => do
      let wellPlaced := wellPlaced && isWellPlaced value
      if ← standsAlone value then
        return ⟨Text.stripBlanks name, Text.stripBlanks value, wellPlaced⟩
      else chooseCut wellPlaced more

def withoutUnderscores (text : List Char) : List Char :=
  if text.head?.any Char.isDigit then text.filter (· != '_') else text

/-- Tries the first of the ways to cut a line without underscores in its value, and the
others as they are; if there are no others, also the first as it is. -/
def divideAt : List (List Char × List Char) → Reading Division
  | [] => .error .malformed
  | (name, value) :: more => do
      let joined := withoutUnderscores value
      if ← standsAlone joined then
        return ⟨Text.stripBlanks name, Text.stripBlanks joined, isWellPlaced value⟩
      else
        let again := more.isEmpty && joined != value
        chooseCut (isWellPlaced value) (if again then [(name, value)] else more)

/-- An assignment cut at the first equals sign outside of quotes or at a later one. Where all
stand inside of quotes, it is cut at the last one. -/
def divide (line : List Char) : Reading Division :=
  let all := cuts line
  match all.drop (occurrencesBefore ['='] false (stretches line)) with
  | [] => divideAt (all.drop (all.length - 1))
  | later => divideAt later

/-- The parts of a name with dots and quotes: stretches outside of quotes are cut at dots,
those inside are parts by themselves. -/
def quotedParts : (quoted : Bool) → List (List Char) → List (List Char)
  | _, [] => []
  | true, stretch :: rest => stretch :: quotedParts false rest
  | false, stretch :: rest =>
      (Text.pieces '.' stretch).map Text.stripBlanks ++ quotedParts true rest

def dottedParts (name : List Char) : List (List Char) :=
  if name.any isQuote then quotedParts false (stretches name) else Text.pieces '.' name

structure Target where
  through : List String
  name : String

def target (name : List Char) : Reading Target := do
  if name.contains '.' then
    match (dottedParts name).reverse.dropWhile List.isEmpty with
    | [] => throw .absent
    | last :: before =>
        return ⟨before.reverse.map String.ofList, String.ofList (Text.stripBlanks last)⟩
  else
    let first ← present name.head?
    if isQuote first && name.getLast? = some first then
      let name ← required (unescape (inside name))
      return ⟨[], String.ofList name⟩
    else return ⟨[], String.ofList name⟩

/-- The last item of a list of texts that has no end yet: pieces between commas are put
together from the last one on, up to one that starts with a quote. -/
def lastItem : (current : List Char) → (before : List (List Char)) → Reading (List Char)
  | current, [] => .ok current
  | [], _ :: _ => .error .absent
  | first :: current, piece :: before =>
      if isQuote first then .ok (first :: current)
      else lastItem (piece ++ ',' :: first :: current) before

def lacksClosingQuotes : List Char → Reading Bool
  | [] => .error .absent
  | first :: rest => do
      if !isQuote first then return false
      if (← present rest.head?) != first then return false
      if (← present (rest.drop 1).head?) != first then return false
      return !(5 < rest.length + 1 && endsInThree first (first :: rest))

/-- A value goes on on the next line: it is a text between triple quotes that is not closed,
or a list of texts that ends in one. -/
def goesOn (value : List Char) : Reading Bool := do
  if value.length < 3 then return false
  let isOpenList := value.head? = some '[' && value.getLast? != some ']'
  let content := Text.stripBlanks (inside value)
  if isOpenList && content.head?.any isQuote then
    match (Text.pieces ',' (Text.stripBlanks (value.drop 1))).reverse with
    | [] => return false
    | last :: before => lacksClosingQuotes (← lastItem last before)
  else lacksClosingQuotes value

structure Pending where
  name : String
  text : List Char
  /-- A backslash at the end joins the next line that is not empty, without its blanks. -/
  continued : Bool

def Pending.ofText (name : String) (text : List Char) : Pending :=
  if escapesNext text.reverse then ⟨name, text.dropLast, true⟩
  else ⟨name, text ++ ['\n'], false⟩

inductive Content where
  | value (value : Value)
  | unfinished (text : List Char)

def readContent (read : Bool → List Char → Reading (Value × Kind)) (division : Division) :
    Reading Content := do
  if ← goesOn division.value then return .unfinished division.value
  else
    let (value, _) ← read division.wellPlaced division.value
    return .value value

def enterHere (name : String) (content : Content) : Value → Reading (Value × Option Pending)
  | .object entries =>
      if (entries.lookup name).isSome then .error .malformed
      else
        match content with
        | .value value => .ok (.object (Entries.insert name value entries), none)
        | .unfinished text =>
            if name = "" then .error .noName
            else .ok (.object entries, some (.ofText name text))
  | _ => .error .malformed

/-- Goes through tables, making those that are missing, and enters a value there. The value
is read only then. An empty name leads nowhere else. -/
def enter (name : String) (content : Reading Content) :
    List String → Value → Reading (Value × Option Pending)
  | [], level => do
      let content ← content
      enterHere name content level
  | next :: names, level =>
      if next = "" then enter name content names level
      else
        match level with
        | .object entries => do
            let below := (entries.lookup next).getD (.object [])
            let (below, pending) ← enter name content names below
            return (.object (Entries.insert next below entries), pending)
        | _ => .error .noTable

def assign (read : Bool → List Char → Reading (Value × Kind)) (line : List Char)
    (level : Value) : Reading (Value × Option Pending) := do
  let division ← divide line
  let target ← target division.name
  enter target.name (readContent read division) target.through level

def assignAll (read : Bool → List Char → Reading (Value × Kind)) :
    List (List Char) → Value → Reading Value
  | [], level => .ok level
  | line :: rest, level => do
      let (level, pending) ← assign read line level
      if pending.isSome then return level else assignAll read rest level

end StorageCompat.Toml

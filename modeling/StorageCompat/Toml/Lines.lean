import StorageCompat.Text.Alphanumeric
import StorageCompat.Text.Blank
import StorageCompat.Toml.Refusal
import StorageCompat.Toml.Stretches

/-!
The logical lines of a settings file. Comments become blanks, and so does a line end inside
brackets; one inside a text between triple quotes stays. What stands in front of an equals
sign is checked to be a name, and every text is checked to end where it has to.

The characters are looked at one by one, each with those behind it as they have become. In
front of the first character the last one is looked at, as if the text were a ring.
-/

namespace StorageCompat.Toml

inductive HeaderMark where
  | single
  | double
  deriving DecidableEq

inductive NamePlace where
  | inside
  | behind
  deriving DecidableEq

structure Scan where
  /-- The mark of the text around. -/
  quote : Option Char := none
  /-- Three quotes opened a text and did not close it yet. -/
  triple : Bool := false
  /-- The brackets that are open outside of headers. -/
  brackets : Int := 0
  /-- Only blanks stand on the line so far. -/
  fresh : Bool := true
  header : Option HeaderMark := none
  name : Option NamePlace := none
  /-- The name in front has dots. -/
  dotted : Bool := false
  comment : Bool := false

namespace Scan

def placeBefore : List Char → Reading NamePlace
  | [] => .error .absent
  | next :: _ => .ok (if Text.isBlank next || next = '.' then .behind else .inside)

def endName (scan : Scan) (character : Char) : Reading Scan :=
  if character = '=' then .ok { scan with name := none, dotted := false }
  else .error .malformed

def inName (scan : Scan) (behind : List Char) (character : Char) : Reading Scan :=
  if Text.isBlank character then .ok { scan with name := some .behind }
  else if character = '.' then .ok { scan with dotted := true }
  else if Text.isAlphanumeric character || character = '_' || character = '-' then .ok scan
  else if scan.dotted && behind.head? = some '.' && isQuote character then
    .ok { scan with quote := some character }
  else scan.endName character

def behindName (scan : Scan) (character : Char) (rest : List Char) : Reading Scan :=
  if Text.isBlank character || character = '.' then
    if scan.dotted || character = '.' then do
      let place ← placeBefore rest
      return { scan with name := some place, dotted := true }
    else .ok scan
  else scan.endName character

def nameCharacter (scan : Scan) (place : NamePlace) (behind : List Char) (character : Char)
    (rest : List Char) : Reading Scan :=
  if character = '\n' then .error .malformed
  else
    match scan.quote, place with
    | some mark, _ =>
        if character = mark && !escapesNext behind then
          .ok { scan with quote := none, name := some .behind }
        else .ok scan
    | none, .inside => scan.inName behind character
    | none, .behind => scan.behindName character rest

def toggle (scan : Scan) (mark : Char) (third : Bool) : Scan :=
  let opens := if third then !scan.triple else scan.quote.isNone
  { scan with
    quote := if opens then some mark else none
    triple := if third then opens else scan.triple }

/-- A quote outside of texts of the other kind. A double one that is escaped does not count;
only one that stands alone or is the third in a row can be. -/
def quoteMark (scan : Scan) (behind : List Char) (mark : Char) : Scan :=
  let third := behind.take 2 == [mark, mark]
  let before := if third then behind.drop 2 else behind
  if mark = '"' && escapesNext before then scan else scan.toggle mark third

def openBracket (scan : Scan) (rest : List Char) : Scan :=
  if scan.quote.isSome || scan.header.isSome then scan
  else if scan.fresh then
    { scan with header := some (if rest.head? = some '[' then .double else .single) }
  else { scan with brackets := scan.brackets + 1 }

def closeBracket (scan : Scan) (behind : List Char) : Scan :=
  if scan.quote.isSome then scan
  else
    match scan.header with
    | some .single => { scan with header := none }
    | some .double => if behind.head? = some ']' then { scan with header := none } else scan
    | none => { scan with brackets := scan.brackets - 1 }

def startLine (scan : Scan) (character : Char) : Reading Scan :=
  if !scan.fresh || character = ' ' || character = '\t' then .ok scan
  else if scan.header.isSome then .ok { scan with fresh := false }
  else if character = '=' then .error .malformed
  else .ok { scan with fresh := false, name := some .inside }

/-- A line end, and the characters with it. Behind two quotes it becomes a third one, and a
third one in front of those becomes a blank. -/
def endLine (scan : Scan) (behind : List Char) : Reading (Scan × List Char) :=
  if scan.triple then
    match behind with
    | first :: second :: rest =>
        if isQuote first && second = first then
          let rest := if rest.head? = some first then ' ' :: rest.tail else rest
          .ok (scan, first :: first :: second :: rest)
        else .ok (scan, '\n' :: behind)
    | _ => .ok (scan, '\n' :: behind)
  else if scan.quote.isSome then .error .malformed
  else if scan.brackets != 0 then .ok (scan, ' ' :: behind)
  else .ok ({ scan with fresh := true }, '\n' :: behind)

def plain (scan : Scan) (behind : List Char) (character : Char) (rest : List Char) : Scan :=
  if character = '\'' && scan.quote != some '"' then scan.quoteMark behind character
  else if character = '"' && scan.quote != some '\'' then scan.quoteMark behind character
  else if character = '[' then scan.openBracket rest
  else if character = ']' then scan.closeBracket behind
  else scan

def step (scan : Scan) (behind : List Char) (character : Char) (rest : List Char) :
    Reading (Scan × List Char) :=
  match scan.name with
  | some place => do
      let scan ← scan.nameCharacter place behind character rest
      return (scan, character :: behind)
  | none =>
      if character = '\n' then { scan with comment := false }.endLine behind
      else if scan.comment then .ok (scan, ' ' :: behind)
      else if character = '#' && scan.quote.isNone && scan.header.isNone then
        .ok ({ scan with comment := true }, ' ' :: behind)
      else do
        let scan ← (scan.plain behind character rest).startLine character
        return (scan, character :: behind)

def run : Scan → (behind : List Char) → List Char → Reading (Scan × List Char)
  | scan, behind, [] => .ok (scan, behind)
  | scan, behind, character :: rest => do
      let (scan, behind) ← scan.step behind character rest
      run scan behind rest

end Scan

def lines (text : List Char) : Reading (List (List Char)) := do
  let (scan, behind) ← Scan.run {} text.reverse text
  if scan.name.isSome || scan.quote.isSome then throw .malformed
  else return Text.pieces '\n' (behind.take text.length).reverse

end StorageCompat.Toml

import StorageCompat.Toml.Header
import StorageCompat.Toml.Lines
import StorageCompat.Toml.Value

/-!
Settings files as documents. A file is a sequence of headers and assignments: a header says
which table is filled from there on, an assignment enters one value into it. A line that is
neither counts for nothing.
-/

namespace StorageCompat.Toml

/-- What is known after some lines of a file: the document, the way to the table that is
filled, the names of the tables that were only passed through, and an assignment whose value
goes on. -/
structure Progress where
  document : Value
  way : List Step
  passed : List String
  pending : Option Pending

namespace Progress

def start : Progress := ⟨.object [], [], [], none⟩

def openHeader (progress : Progress) (line : List Char) : Reading Progress := do
  let header ← required (readHeader line)
  let opened ← openTable header.several header.names progress.passed progress.document
  return { progress with document := opened.value, way := opened.way, passed := opened.passed }

def change (progress : Progress) (change : Value → Reading (Value × Option Pending)) :
    Reading Progress := do
  let (document, pending) ← changeAt change progress.way progress.document
  return { progress with document, pending }

def assignTable (progress : Progress) (line : List Char) : Reading Progress := do
  if line.getLast? != some '\x7d' then throw .malformed
  let items ← tableItems line
  progress.change fun level => do
    let level ← assignAll readValue items level
    return (level, none)

def readFresh (progress : Progress) (line : List Char) : Reading Progress :=
  match Text.stripBlanks line with
  | [] => .ok progress
  | '[' :: rest => progress.openHeader rest
  | first :: rest =>
      if first = '\x7b' then progress.assignTable (first :: rest)
      else if (first :: rest).contains '=' then
        progress.change (assign readValue (first :: rest))
      else .ok progress

def complete (progress : Progress) (name : String) (text : List Char) : Reading Progress := do
  let (value, _) ← readValue true text
  progress.change fun level =>
    match level with
    | .object entries => .ok (.object (Entries.insert name value entries), none)
    | _ => .error .noTable

/-- A line ends the text that a pending assignment starts with: a list by its last bracket,
a text by three marks. -/
def closes (text line : List Char) : Reading Bool :=
  match text.head? with
  | none => .ok false
  | some first =>
      if first = '[' then (· == ']') <$> present line.getLast?
      else .ok (endsInThree first line)

def readPending (progress : Progress) (pending : Pending) (line : List Char) :
    Reading Progress := do
  let line := if pending.continued then Text.stripBlanks line else line
  if line.isEmpty && pending.continued then return progress
  else
    let text := pending.text ++ line
    if ← closes text line then progress.complete pending.name text
    else return { progress with pending := some (.ofText pending.name text) }

def readLine (progress : Progress) (line : List Char) : Reading Progress :=
  match progress.pending with
  | some pending => progress.readPending pending line
  | none => progress.readFresh line

end Progress

def read (text : String) : Reading Value := do
  let lines ← lines text.toList
  let progress ← lines.foldlM Progress.readLine .start
  return progress.document

end StorageCompat.Toml

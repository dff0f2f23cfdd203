import StorageCompat.Text.Blank
import StorageCompat.Toml.Refusal
import StorageCompat.Toml.Stretches
import StorageCompat.Value.Shown

/-!
Headers of a settings file. A header names the table that is filled from there on. A table
may be opened by one header only, unless it was so far just passed through on the way to
another.

Tables are objects, tables of which there are several are lists of objects, and a header
that goes through such a list goes into its last table.
-/

namespace StorageCompat.Toml

structure Header where
  several : Bool
  names : List String

def isBareName (name : List Char) : Bool :=
  !name.isEmpty && name.all fun character =>
    character.isAlphanum || character = '_' || character = '-'

def closed? (mark : Char) (name : List Char) : Option (List Char) :=
  let name := Text.stripBlanks name
  if 1 < name.length && name.getLast? = some mark then some (inside name) else none

/-- A quoted name that dots have cut, put together from its pieces: what stands inside of
its marks, and the pieces that follow. -/
def closeName (mark : Char) :
    (joined : List Char) → List (List Char) → Option (List Char × List (List Char))
  | joined, [] => (closed? mark joined).map fun name => (name, [])
  | joined, piece :: rest =>
      match closed? mark joined with
      | some name => some (name, piece :: rest)
      | none => closeName mark (joined ++ '.' :: piece) rest

def headerNames : (fuel : Nat) → List (List Char) → Option (List String)
  | _, [] => some []
  | 0, _ => none
  | fuel + 1, piece :: rest => do
      let name := Text.stripBlanks piece
      let (name, rest) ←
        if name.head?.any isQuote then closeName (name.headD '"') name rest
        else if isBareName name then some (name, rest)
        else none
      let names ← headerNames fuel rest
      return String.ofList name :: names

/-- The header that a line is, without the bracket that it starts with. Only blanks follow
the first closing mark outside of quotes. -/
def readHeader (line : List Char) : Option Header := do
  let several := line.head? = some '['
  let line := if several then line.drop 1 else line
  let mark := if several then [']', ']'] else [']']
  let (names, behind) ←
    Text.cutAt? mark (occurrencesBefore mark false (stretches line)) line
  if !(Text.stripBlanks behind).isEmpty then none
  else
    let pieces := Text.pieces '.' names
    let names ← headerNames pieces.length pieces
    return ⟨several, names⟩

inductive Step where
  | entry (name : String)
  | lastItem

def changeLast {α : Type} (change : Value → Reading (Value × α)) :
    List Value → Reading (List Value × α)
  | [] => .error .absent
  | [item] => do
      let (item, found) ← change item
      return ([item], found)
  | item :: rest => do
      let (rest, found) ← changeLast change rest
      return (item :: rest, found)

def changeAt {α : Type} (change : Value → Reading (Value × α)) :
    List Step → Value → Reading (Value × α)
  | [], value => change value
  | .entry name :: way, .object entries => do
      let (child, found) ← changeAt change way ((entries.lookup name).getD .null)
      return (.object (Entries.insert name child entries), found)
  | .lastItem :: way, .list items => do
      let (items, found) ← changeLast (changeAt change way) items
      return (.list items, found)
  | _, _ => .error .noTable

/-- What a header leads to: the value with the new table in it, the way to that table, and
the names of the tables that were only passed through so far. -/
structure Opened where
  value : Value
  way : List Step
  passed : List String

def newTable (several isLast : Bool) : Value :=
  if several && isLast then .list [.object []] else .object []

/-- Opens what is already there under the last name of a header, in a table with the given
entries. One that was opened before has to be one of several. -/
def openAgain (several : Bool) (name : String) (child : Value)
    (entries : List (String × Value)) (passed : List String) :
    Reading (Value × List String) :=
  if passed.contains name then
    if several then .error .malformed else .ok (child, passed.erase name)
  else if several then
    match child with
    | .list items => .ok (.list (items ++ [.object []]), passed)
    | _ => .error .noTable
  else if (Value.object entries).isWritable then .error .malformed
  else .error .unwritable

/-- Goes from what a name leads to into the table that the next name is looked up in, which
is `next`. Where one table of several is opened, each list on the way stands for its last
item. -/
def descend (several : Bool) (next : Value → Reading Opened) (child : Value) :
    Reading Opened :=
  match several, child with
  | true, .list items => do
      let (items, opened) ← changeLast (fun item => do
        let opened ← next item
        return (opened.value, opened)) items
      return ⟨.list items, .lastItem :: opened.way, opened.passed⟩
  | true, .object _ => next child
  | true, .text characters => if characters.isEmpty then .error .absent else next child
  | true, _ => .error .noTable
  | false, _ => next child

def openTable (several : Bool) : List String → List String → Value → Reading Opened
  | [], passed, value => .ok ⟨value, [], passed⟩
  | name :: names, passed, value =>
      let enter (child : Value) (passed : List String) (entries : List (String × Value)) :
          Reading Opened := do
        let opened ← descend several (openTable several names passed) child
        return ⟨.object (Entries.insert name opened.value entries),
          .entry name :: opened.way, opened.passed⟩
      if name = "" then .error .malformed
      else
        match value with
        | .object entries =>
            match entries.lookup name with
            | none =>
                let passed := if names.isEmpty then passed else passed ++ [name]
                enter (newTable several names.isEmpty) passed entries
            | some child =>
                if names.isEmpty then do
                  let (child, passed) ← openAgain several name child entries passed
                  enter child passed entries
                else enter child passed entries
        | .list items => do
            let (items, opened) ← changeLast (fun item =>
              match item with
              | .object entries => do
                  let made := newTable several names.isEmpty
                  let opened ← enter ((entries.lookup name).getD made) passed entries
                  return (opened.value, opened)
              | _ => .error .noTable) items
            return ⟨.list items, .lastItem :: opened.way, opened.passed⟩
        | .text characters => .error (if characters.isEmpty then .absent else .noTable)
        | _ => .error .noTable

end StorageCompat.Toml

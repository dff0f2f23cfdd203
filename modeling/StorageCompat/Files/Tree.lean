import StorageCompat.Fault
import StorageCompat.Files.Path

/-!
The files that a command sees: which directories there are, and what the files in them hold.
A path is resolved name by name, so each directory that it goes through has to be there,
also one that it leaves again.
-/

namespace StorageCompat.Files

/-- A place among all files: names below the working directory, below a directory some
levels above it, or below the root. -/
structure Place where
  anchor : Option Nat
  names : List String
  deriving DecidableEq, Repr

namespace Place

def working : Place := ⟨some 0, []⟩

def root : Place := ⟨none, []⟩

def up (place : Place) : Place :=
  match place.names, place.anchor with
  | [], some levels => ⟨some (levels + 1), []⟩
  | [], none => place
  | names, anchor => ⟨anchor, names.dropLast⟩

def child (place : Place) (name : String) : Place :=
  { place with names := place.names ++ [name] }

end Place

/-- Files with what they hold, and directories. The places that hold the working directory
are directories without being listed. -/
structure Tree where
  files : List (Place × ByteArray)
  directories : List Place

namespace Tree

def isDirectory (tree : Tree) (place : Place) : Bool :=
  place.names.isEmpty || tree.directories.contains place

def content? (tree : Tree) (place : Place) : Option ByteArray :=
  tree.files.lookup place

inductive DeadEnd where
  /-- A directory on the way is not there. -/
  | missing
  /-- A file on the way is no directory. -/
  | blocked
  /-- The path, or a name in it, is too long. -/
  | tooLong
  /-- A character of the path is one that no path has. -/
  | nullCharacter
  deriving DecidableEq

def DeadEnd.fault : DeadEnd → FileFault
  | .missing => .notFound
  | .blocked => .notDirectory
  | .tooLong => .nameTooLong
  | .nullCharacter => .nullCharacter

def longestName : Nat := 255

def longestPath : Nat := 4095

def walk (tree : Tree) (place : Place) (name : String) : Except DeadEnd Place :=
  if tree.isDirectory place then
    if longestName < name.utf8ByteSize then .error .tooLong
    else .ok (if name = ".." then place.up else place.child name)
  else if (tree.content? place).isSome then .error .blocked
  else .error .missing

def resolve (tree : Tree) (path : Path) : Except DeadEnd Place :=
  if path.names.any (·.contains '\x00') then .error .nullCharacter
  else if longestPath < path.text.utf8ByteSize then .error .tooLong
  else path.names.foldlM tree.walk (if path.isAbsolute then .root else .working)

/-- The place that a path leads to, if it leads to one. A path that is too long is no
question to ask. -/
def place? (tree : Tree) (path : Path) : Except Fault (Option Place) :=
  match tree.resolve path with
  | .ok place => .ok (some place)
  | .error .tooLong => .error (.file .nameTooLong)
  | .error _ => .ok none

def exists? (tree : Tree) (path : Path) : Except Fault Bool := do
  let place ← tree.place? path
  return place.any fun place => tree.isDirectory place || (tree.content? place).isSome

def leadsToDirectory (tree : Tree) (path : Path) : Bool :=
  match tree.resolve path with
  | .ok place => tree.isDirectory place
  | .error _ => false

def plainLineEnds : List Char → List Char
  | [] => []
  | '\r' :: '\n' :: rest => '\n' :: plainLineEnds rest
  | '\r' :: rest => '\n' :: plainLineEnds rest
  | character :: rest => character :: plainLineEnds rest

/-- The text of a file. What is asked for has to be there; `absent` is the cause if not. -/
def readText (tree : Tree) (path : Path) (absent : Fault) : Except Fault String := do
  match ← tree.place? path with
  | none => throw absent
  | some place =>
      if tree.isDirectory place then throw (.file .isDirectory)
      else
        match tree.content? place with
        | none => throw absent
        | some content =>
            match String.fromUTF8? content with
            | some text => return String.ofList (plainLineEnds text.toList)
            | none => throw (.file .notUtf8)

inductive Making where
  | made (tree : Tree)
  | taken
  | dead (ending : DeadEnd)

def makeDirectory (tree : Tree) (path : Path) : Making :=
  match tree.resolve path with
  | .error ending => .dead ending
  | .ok place =>
      if tree.isDirectory place || (tree.content? place).isSome then .taken
      else .made { tree with directories := tree.directories ++ [place] }

def settle (tree : Tree) (path : Path) : Making → Except Fault Tree
  | .made tree => .ok tree
  | .taken => if tree.leadsToDirectory path then .ok tree else .error (.file .alreadyExists)
  | .dead ending => .error (.file ending.fault)

/-- Makes the directories of a path that are not there, given its names from the last one
on. The last one is tried first; only where its place is missing are the others made. -/
def makeFrom (tree : Tree) (root : String) : (reversed : List String) → Except Fault Tree
  | [] => tree.settle ⟨root, []⟩ (tree.makeDirectory ⟨root, []⟩)
  | name :: before =>
      let path : Path := ⟨root, (name :: before).reverse⟩
      match tree.makeDirectory path with
      | .dead .missing => do
          let tree ← makeFrom tree root before
          tree.settle path (tree.makeDirectory path)
      | making => tree.settle path making

def makeDirectories (tree : Tree) (path : Path) : Except Fault Tree :=
  tree.makeFrom path.root path.names.reverse

def enterFile (place : Place) (content : ByteArray) :
    List (Place × ByteArray) → List (Place × ByteArray)
  | [] => [(place, content)]
  | (other, old) :: rest =>
      if other = place then (other, content) :: rest
      else (other, old) :: enterFile place content rest

def writeText (tree : Tree) (path : Path) (text : String) : Except Fault Tree :=
  match tree.resolve path with
  | .error ending => .error (.file ending.fault)
  | .ok place =>
      if tree.isDirectory place then .error (.file .isDirectory)
      else .ok { tree with files := enterFile place text.toUTF8 tree.files }

def save (tree : Tree) (path : Path) (text : String) : Except Fault Tree := do
  let tree ← tree.makeDirectories path.parent
  tree.writeText path text

end Tree

end StorageCompat.Files

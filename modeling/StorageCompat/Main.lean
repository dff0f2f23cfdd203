import StorageCompat.Command.Check

/-!
The command itself: it looks at the files that its arguments name, runs the check on them,
and prints and writes what came of it.
-/

namespace StorageCompat.Main

open Command (Arguments Outcome Request)
open Files (Path Place Tree)

inductive Found where
  | nothing
  | directory
  | file (content : ByteArray)

def look (path : String) : IO Found := do
  let opened ← (IO.FS.Handle.mk path .read).toBaseIO
  match opened with
  | .error _ => return .nothing
  | .ok _ =>
      match ← (IO.FS.readBinFile path).toBaseIO with
      | .ok content => return .file content
      | .error _ => return .directory

/-- The place of a path, as long as double dots lead back the way they came. -/
def placeOf (path : Path) : Place :=
  let start := if path.isAbsolute then Place.root else Place.working
  path.names.foldl (fun place name => if name = ".." then place.up else place.child name) start

def survey (tree : Tree) (path : Path) : IO Tree := do
  let mut tree := tree
  for count in List.range (path.names.length + 1) do
    let part : Path := { path with names := path.names.take count }
    let place := placeOf part
    match ← look part.text with
    | .nothing => pure ()
    | .directory => tree := { tree with directories := place :: tree.directories }
    | .file content => tree := { tree with files := Tree.enterFile place content tree.files }
  return tree

def pathsOf (arguments : Arguments) : List Path :=
  [arguments.config.getD Command.usualSettings, arguments.older, arguments.newer] ++
    arguments.jsonOutput.toList ++ arguments.saveLayout.toList

def placeText (place : Place) : String :=
  let start := match place.anchor with
    | some levels => String.join (List.replicate levels "../")
    | none => "/"
  start ++ "/".intercalate place.names

def writeChanges (before after : Tree) : IO Unit := do
  for (place, content) in after.files do
    if (before.content? place).map ByteArray.data != some content.data then
      let directory := placeText place.up
      if directory != "" then IO.FS.createDirAll directory
      IO.FS.writeBinFile (placeText place) content

def report (outcome : Outcome) : IO Unit := do
  for record in outcome.log.getD [] do
    IO.eprintln record.line
  IO.print outcome.printed

end StorageCompat.Main

open StorageCompat in
def main (arguments : List String) : IO UInt32 := do
  let paths := match Command.Request.ofArguments arguments with
    | .check arguments => Main.pathsOf arguments
    | _ => []
  let tree ← paths.foldlM Main.survey ⟨[], []⟩
  let outcome := Command.run tree arguments Toml.read
  Main.report outcome
  Main.writeChanges tree outcome.tree
  match outcome.ending with
  | .ok exit => return UInt32.ofNat exit.code
  | .error fault =>
      IO.eprintln fault.message
      return 1

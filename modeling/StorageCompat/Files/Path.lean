import StorageCompat.Text.Pieces

/-!
Paths of files. Repeated and trailing slashes and single dots carry no meaning and are
dropped when a path is read; double dots stay, because what they lead to depends on the
files.
-/

namespace StorageCompat.Files

structure Path where
  root : String
  names : List String
  deriving DecidableEq, Repr

namespace Path

/-- Exactly two leading slashes are kept; any other number but zero counts as one. -/
def rootOf (text : List Char) : String :=
  match (text.takeWhile (· == '/')).length with
  | 0 => ""
  | 2 => "//"
  | _ => "/"

def ofText (text : String) : Path where
  root := rootOf text.toList
  names := ((Text.pieces '/' text.toList).map String.ofList).filter fun name =>
    name != "" && name != "."

def text (path : Path) : String :=
  match path.root ++ "/".intercalate path.names with
  | "" => "."
  | written => written

def parent (path : Path) : Path :=
  { path with names := path.names.dropLast }

def isAbsolute (path : Path) : Bool := path.root != ""

def child (path : Path) (name : String) : Path :=
  { path with names := path.names ++ [name] }

end Path

end StorageCompat.Files

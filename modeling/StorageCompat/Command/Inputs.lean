import StorageCompat.Command.Arguments
import StorageCompat.Files.Tree
import StorageCompat.Json.Reader
import StorageCompat.Layout.Document
import StorageCompat.Layout.Extraction
import StorageCompat.Settings
import StorageCompat.Toml.Document

/-!
What a check starts from: its settings and the layouts of the two versions. Nothing is
written while these are read. The first input that cannot be used decides how the check
ends, in the order settings, older version, newer version. How settings files are written is
left to a reader of such files, which is given.
-/

namespace StorageCompat.Command

open Files (Path Tree)

def usualSettings : Path := Path.ofText "upgrade_check.toml"

def settingsOfText (path : Path) (text : String) (readToml : Toml.Reader) :
    Except Fault Settings :=
  match readToml text with
  | .ok document => Settings.ofDocument document
  | .error .malformed => .error (.settings (.unreadable path))
  | .error .unwritable => .error (.numberTooLong none)
  | .error refusal => .error (.deadEnd refusal)

def readSettings (tree : Tree) (path : Path) (readToml : Toml.Reader) : Logged Settings := do
  let text ← tree.readText path (.settingsNotFound path)
  let settings ← settingsOfText path text readToml
  Logged.note .info ("已加载配置: " ++ path.text)
  return { settings with source := some path }

/-- The settings of a check; without a file of its own and without the usual one, the
standard ones. -/
def settingsFor (tree : Tree) (path : Option Path) (readToml : Toml.Reader := Toml.read) :
    Logged Settings := do
  match path with
  | some path => readSettings tree path readToml
  | none =>
      if ← tree.exists? usualSettings then readSettings tree usualSettings readToml
      else
        Logged.note .debug "未找到 upgrade_check.toml,使用默认配置"
        return {}

def isSavedLayout (entries : List (String × Value)) : Bool :=
  (entries.lookup "storage").isSome && (entries.lookup "types").isSome

def documentOfText (text : String) : Except Fault Value :=
  (Json.read text).mapError fun refusal =>
    match refusal with
    | .malformed => .notJson
    | .tooLong digits => .numberTooLong (some digits)
    -- Half of a surrogate pair stands in no file of text, and so in no value either.
    | .unpaired => .file .notUtf8

/-- The layout in a file: a saved one as it is, or the one of a contract in compiler output. -/
def readLayout (tree : Tree) (path : Path) (contract : Option String) : Logged Layout := do
  let text ← tree.readText path (.inputNotFound path)
  match ← documentOfText text with
  | .object entries =>
      if isSavedLayout entries then
        Logged.note .info ("从布局文件加载: " ++ path.text)
        Layout.ofDocument (.object entries)
      else
        let contract := contract.getD ""
        if contract.isEmpty then throw (.contractNotChosen path)
        Logged.note .info ("从编译输出提取: " ++ path.text ++ " (" ++ contract ++ ")")
        let definition ← SyntaxTree.contract (.object entries) (.text contract)
        Layout.ofContract definition
  | _ => throw (.unrecognised path)

structure Inputs where
  settings : Settings
  older : Layout
  newer : Layout

def readInputs (tree : Tree) (arguments : Arguments) (readToml : Toml.Reader) :
    Logged Inputs := do
  let settings ← settingsFor tree arguments.config readToml
  let older ← readLayout tree arguments.older arguments.contract
  let newer ← readLayout tree arguments.newer arguments.contractOfNewer
  return { settings, older, newer }

end StorageCompat.Command

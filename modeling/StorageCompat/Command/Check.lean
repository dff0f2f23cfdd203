import StorageCompat.Command.Inputs
import StorageCompat.Json.Writer
import StorageCompat.Upgrade.Report

/-!
The check of an upgrade as a function from files and arguments to what it prints, notes and
writes, and to how it ends. An input that cannot be used ends it before anything is printed
or written.
-/

namespace StorageCompat.Command

open Files (Path Tree)
open Upgrade (Policy Report)

inductive Exit where
  | safe
  | incompatible
  | inputError
  deriving DecidableEq, Repr

def Exit.code : Exit → Nat
  | .safe => 0
  | .incompatible => 1
  | .inputError => 2

/-- What came of a check: its ending or the cause that broke it off, what it printed, the
notes it made (none where the arguments were refused), and the files behind it. -/
structure Outcome where
  ending : Except Fault Exit
  printed : String
  log : Option (List Record)
  tree : Tree

def shownNotes (debug : Bool) (log : List Record) : List Record :=
  if debug then log else log.filter fun record => record.level != .debug

/-- The policy of a check: equal variables are listed if the arguments or the settings say
so. -/
def policy (arguments : Arguments) (settings : Settings) : Policy where
  costs := some settings.costs
  includeEqual := arguments.includeEqual || settings.includeEqual

def report (arguments : Arguments) (inputs : Inputs) : Logged Report := do
  let changes ←
    Upgrade.changes (policy arguments inputs.settings) inputs.older inputs.newer
  Report.ofChanges changes inputs.older inputs.newer

structure Output where
  path : Path
  value : Value
  announcement : String

def outputs (arguments : Arguments) (inputs : Inputs) (report : Report) : List Output :=
  let report := arguments.jsonOutput.map fun path =>
    { path, value := report.toValue, announcement := "JSON 报告已保存: " }
  let layout := arguments.saveLayout.map fun path =>
    { path, value := inputs.newer.toDocument, announcement := "存储布局已保存: " }
  report.toList ++ layout.toList

/-- Saves values one after another. What was saved before a failure stays. -/
def saveAll : List Output → Tree → Tree × Logged Unit
  | [], tree => (tree, pure ())
  | output :: rest, tree =>
      match tree.save output.path (Json.lines output.value) with
      | .error fault => (tree, throw fault)
      | .ok tree =>
          let (tree, later) := saveAll rest tree
          (tree, Logged.note .info (output.announcement ++ output.path.text) *> later)

def verdict (report : Report) : Exit :=
  if report.safe then .safe else .incompatible

def conclude (arguments : Arguments) (inputs : Inputs) (before : List Record) (tree : Tree) :
    Outcome :=
  let shown (log : List Record) := some (shownNotes arguments.debug (before ++ log))
  let reported := report arguments inputs
  match reported.result with
  | .error fault => ⟨.error fault, "", shown reported.log, tree⟩
  | .ok report =>
      let (tree, saved) := saveAll (outputs arguments inputs report) tree
      ⟨saved.result.map fun _ => verdict report, report.printed,
        shown (reported.log ++ saved.log), tree⟩

def check (tree : Tree) (arguments : Arguments) (readToml : Toml.Reader) : Outcome :=
  let loaded := readInputs tree arguments readToml
  let shown (more : List Record) := some (shownNotes arguments.debug (loaded.log ++ more))
  match loaded.result with
  | .ok inputs => conclude arguments inputs loaded.log tree
  | .error fault =>
      if fault.isInputFault then
        ⟨.ok .inputError, "", shown [⟨.error, "加载输入失败: " ++ fault.message⟩], tree⟩
      else ⟨.error fault, "", shown [], tree⟩

def usage : String :=
  "--original FILE --updated FILE [--contract NAME] [--updated-contract NAME] " ++
    "[--config FILE] [--include-equal] [--save-layout FILE] [--json-output FILE] [--debug]\n"

def run (tree : Tree) (arguments : List String) (readToml : Toml.Reader := Toml.read) :
    Outcome :=
  match Request.ofArguments arguments with
  | .check arguments => check tree arguments readToml
  | .help => ⟨.ok .safe, usage, none, tree⟩
  | .refused => ⟨.ok .inputError, "", none, tree⟩

end StorageCompat.Command

import StorageCompat.Command.Inputs
import StorageCompat.Proofs.Files.Reading
import StorageCompat.Proofs.Success

/-!
What is read from files that hold texts: the layout that a text gives, and the settings.
-/

open StorageCompat.Files (Path Tree)

namespace StorageCompat.Command

variable {readToml : Toml.Reader}

def layoutOf (path : Path) (contract : String) : Value → Except Fault Layout
  | .object entries =>
      if isSavedLayout entries then Layout.ofDocument (.object entries)
      else if contract.isEmpty then .error (.contractNotChosen path)
      else do
        let definition ← (SyntaxTree.contract (.object entries) (.text contract)).result
        (Layout.ofContract definition).result
  | _ => .error (.unrecognised path)

theorem readLayout_result {tree : Tree} {path : Path} {text : String}
    (holds : tree.HoldsText path text) (contract : Option String) :
    (readLayout tree path contract).result =
      documentOfText (Tree.plainText text) >>= layoutOf path (contract.getD "") := by
  rw [readLayout, Logged.result_bind, Logged.result_lift, Tree.readText_of_holdsText holds]
  change Logged.result (_ >>= _) = _
  rw [Logged.result_bind, Logged.result_lift]
  apply bind_congr
  intro document
  cases document with
  | object entries =>
      change Logged.result (if isSavedLayout entries = true then _ else _) =
        if isSavedLayout entries = true then _ else _
      cases isSavedLayout entries with
      | true => rfl
      | false =>
          change Logged.result (if (contract.getD "").isEmpty = true then _ else _) =
            if (contract.getD "").isEmpty = true then _ else _
          cases (contract.getD "").isEmpty with
          | true => rfl
          | false =>
              simp only [Bool.false_eq_true, if_false, Logged.result_bind, Logged.result_note]
              rfl
  | _ => rfl

theorem readSettings_result {tree : Tree} {path : Path} {text : String}
    (holds : tree.HoldsText path text) :
    (readSettings tree path readToml).result =
      (settingsOfText path (Tree.plainText text) readToml).map fun settings =>
        { settings with source := some path } := by
  rw [readSettings, Logged.result_bind, Logged.result_lift, Tree.readText_of_holdsText holds]
  change Logged.result (_ >>= _) = _
  rw [Logged.result_bind, Logged.result_lift]
  cases settingsOfText path (Tree.plainText text) readToml <;> rfl

theorem resolve_usualSettings (tree : Tree) :
    tree.resolve usualSettings = .ok ⟨some 0, ["upgrade_check.toml"]⟩ := by
  have path : usualSettings = ⟨"", ["upgrade_check.toml"]⟩ := by decide
  rw [path]
  exact tree.resolve_name (by decide) (by decide) (by decide)

/-- The usual file of settings is read where it is there and no other is named. -/
theorem settingsFor_usual {tree : Tree} {text : String}
    (holds : tree.HoldsText usualSettings text) :
    (settingsFor tree none readToml).result =
      (settingsOfText usualSettings (Tree.plainText text) readToml).map fun settings =>
        { settings with source := some usualSettings } := by
  obtain ⟨place, resolved, file, content⟩ := holds
  have there : tree.exists? usualSettings = .ok true := by
    rw [Tree.exists?_of_resolve resolved, content, Option.isSome_some, Bool.or_true]
  rw [settingsFor, Logged.result_bind, Logged.result_lift, there]
  exact readSettings_result ⟨place, resolved, file, content⟩

end StorageCompat.Command

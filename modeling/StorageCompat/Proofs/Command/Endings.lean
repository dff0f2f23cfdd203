import StorageCompat.Command.Check
import StorageCompat.Proofs.Settling
import StorageCompat.Proofs.Upgrade.Report

/-!
How a check ends. It is the reading of its inputs, the report on them, and the saving of what the
arguments ask for; the ending is the one that the report asks for, or that of the first of these
steps that fails.
-/

open StorageCompat.Alignment
open StorageCompat.Files (Path Tree)
open StorageCompat.Upgrade (Between Report broken breaking_listed cheapestScript)

namespace StorageCompat.Command

variable {readToml : Toml.Reader}

/-- The report counts what the upgrade breaks under the configured costs. -/
theorem exists_report (arguments : Arguments) (inputs : Inputs)
    (writable : Numeral.isWritable
      (cheapestScript (some inputs.settings.costs) inputs.older inputs.newer).cost = true) :
    ∃ entries, (report arguments inputs).result =
      .ok ⟨(broken (some inputs.settings.costs) inputs.older inputs.newer).isEmpty,
        (broken (some inputs.settings.costs) inputs.older inputs.newer).length, entries⟩ := by
  have listed := Upgrade.changes_of_writable (policy arguments inputs.settings) _ _ writable
  obtain ⟨entries, given⟩ := Upgrade.exists_ofChanges
    (Upgrade.between_of_mem_listed (policy arguments inputs.settings) inputs.older inputs.newer)
  rw [breaking_listed] at given
  refine ⟨entries, ?_⟩
  rw [report, Logged.result_bind, listed]
  exact given

theorem report_of_not_writable (arguments : Arguments) (inputs : Inputs)
    (long : ¬Numeral.isWritable
      (cheapestScript (some inputs.settings.costs) inputs.older inputs.newer).cost = true) :
    (report arguments inputs).result = .error (.numberTooLong none) := by
  have refused := Upgrade.changes_of_not_writable (policy arguments inputs.settings) _ _ long
  rw [report, Logged.result_bind, refused]
  rfl

theorem conclude_ending (arguments : Arguments) (inputs : Inputs) (before : List Record)
    (tree : Tree) :
    (conclude arguments inputs before tree).ending =
      (report arguments inputs).result >>= fun report =>
        (saveAll (outputs arguments inputs report) tree).2.result.map fun _ => verdict report := by
  rw [conclude]
  cases (report arguments inputs).result <;> rfl

/-- Inputs that cannot be used end a check, and otherwise its report decides. -/
theorem run_ending (tree : Tree) {words : List String} {arguments : Arguments}
    (understood : Request.ofArguments words = .check arguments) :
    (run tree words readToml).ending =
      match (readInputs tree arguments readToml).result with
      | .ok inputs =>
          (conclude arguments inputs (readInputs tree arguments readToml).log tree).ending
      | .error fault => if fault.isInputFault then .ok .inputError else .error fault := by
  rw [run, understood]
  change (check tree arguments readToml).ending = _
  rw [check]
  cases (readInputs tree arguments readToml).result with
  | ok inputs => rfl
  | error fault =>
      cases reported : fault.isInputFault <;> simp [reported]

/-- A check comes to its end if its inputs do not break it off and if it does with the inputs that
are read. -/
theorem exists_run_ending_iff (tree : Tree) {words : List String} {arguments : Arguments}
    (understood : Request.ofArguments words = .check arguments) :
    (∃ exit, (run tree words readToml).ending = .ok exit) ↔
      Settles (readInputs tree arguments readToml).result ∧
        ∀ inputs, (readInputs tree arguments readToml).result = .ok inputs →
          ∃ exit, (conclude arguments inputs (readInputs tree arguments readToml).log tree).ending =
            .ok exit := by
  rw [run_ending tree understood]
  cases (readInputs tree arguments readToml).result with
  | ok inputs => simp [settles_ok]
  | error fault => cases reported : fault.isInputFault <;> simp [settles_error_iff, reported]

end StorageCompat.Command

import StorageCompat.Proofs.Command.SavedLayouts

/-!
What a run has done when it ends. It prints and writes what comes of its report and nothing else, so
it has no effect unless it has read all its inputs and given a report on them. A run that ends with
the exit code of input errors, or that its inputs break off, has given none.
-/

open StorageCompat.Files (Tree)
open StorageCompat.Upgrade (Report)

namespace StorageCompat.Command

variable {readToml : Toml.Reader}

structure Untouched (tree : Tree) (outcome : Outcome) : Prop where
  kept : outcome.tree = tree
  silent : outcome.printed = ""

/-- The words ask for a check, its inputs are read, and its report is given. -/
def Reports (tree : Tree) (words : List String) (readToml : Toml.Reader) : Prop :=
  ∃ arguments inputs given, Request.ofArguments words = .check arguments ∧
    (readInputs tree arguments readToml).result = .ok inputs ∧
      (report arguments inputs).result = .ok given

def InputsFail (tree : Tree) (words : List String) (readToml : Toml.Reader) : Prop :=
  ∃ arguments fault, Request.ofArguments words = .check arguments ∧
    (readInputs tree arguments readToml).result = .error fault

theorem printed_ne_empty (given : Report) : given.printed ≠ "" := by
  intro empty
  rw [Report.printed] at empty
  simp only [List.map_append, List.map_cons, List.cons_append, String.join_cons] at empty
  exact absurd (String.append_eq_empty_iff.1 empty).1 (by decide)

theorem conclude_untouched {arguments : Arguments} {inputs : Inputs} {fault : Fault}
    (refused : (report arguments inputs).result = .error fault) (before : List Record)
    (tree : Tree) : Untouched tree (conclude arguments inputs before tree) := by
  rw [conclude, refused]
  exact ⟨rfl, rfl⟩

theorem check_untouched {tree : Tree} {arguments : Arguments} {fault : Fault}
    (refused : (readInputs tree arguments readToml).result = .error fault) :
    Untouched tree (check tree arguments readToml) := by
  unfold check
  simp only [refused]
  split
  case isTrue => exact ⟨rfl, rfl⟩
  case isFalse => exact ⟨rfl, rfl⟩

theorem not_untouched_of_reports {tree : Tree} {words : List String}
    (reports : Reports tree words readToml) : ¬Untouched tree (run tree words readToml) := by
  obtain ⟨arguments, inputs, given, understood, loaded, reported⟩ := reports
  intro untouched
  have printed := untouched.silent
  rw [run_eq_conclude tree understood loaded, conclude_printed reported] at printed
  exact printed_ne_empty given printed

/-- Only a run that gives a report has an effect, apart from one that tells how the command is
used. -/
theorem untouched_iff (tree : Tree) {words : List String}
    (asked : Request.ofArguments words ≠ .help) :
    Untouched tree (run tree words readToml) ↔ ¬Reports tree words readToml := by
  constructor
  · intro untouched reports
    exact not_untouched_of_reports reports untouched
  · intro silent
    cases understood : Request.ofArguments words with
    | help => exact absurd understood asked
    | refused =>
        rw [run, understood]
        exact ⟨rfl, rfl⟩
    | check arguments =>
        cases loaded : (readInputs tree arguments readToml).result with
        | error fault =>
            rw [run, understood]
            exact check_untouched loaded
        | ok inputs =>
            rw [run_eq_conclude tree understood loaded]
            cases reported : (report arguments inputs).result with
            | error fault => exact conclude_untouched reported _ tree
            | ok given =>
                exact absurd ⟨arguments, inputs, given, understood, loaded, reported⟩ silent

theorem verdict_code_ne (given : Report) : (verdict given).code ≠ 2 := by
  rw [verdict]
  cases given.safe <;> decide

/-- A run that gives a report ends as the report says, or because something cannot be saved. -/
theorem code_ne_of_reports {tree : Tree} {words : List String}
    (reports : Reports tree words readToml) :
    (run tree words readToml).ending.map Exit.code ≠ .ok 2 := by
  obtain ⟨arguments, inputs, given, understood, loaded, reported⟩ := reports
  rw [run_eq_conclude tree understood loaded, conclude_ending, reported]
  intro ended
  obtain ⟨exit, saved, code⟩ := (map_eq_ok_iff _ _ _).1 ended
  obtain ⟨_, _, judged⟩ := (map_eq_ok_iff _ _ _).1 saved
  rw [← judged] at code
  exact verdict_code_ne given code

theorem not_reports_of_inputsFail {tree : Tree} {words : List String}
    (fails : InputsFail tree words readToml) : ¬Reports tree words readToml := by
  rintro ⟨arguments, inputs, given, understood, loaded, reported⟩
  obtain ⟨arguments', fault, understood', refused⟩ := fails
  rw [understood, Request.check.injEq] at understood'
  rw [← understood', loaded] at refused
  cases refused

/-- A run that ends with the exit code of input errors, or whose inputs cannot be read, leaves all
files as they were and prints nothing, whatever it was asked to save; every run that gives a report
does have an effect, and no other one does. -/
theorem run_untouched (readToml : Toml.Reader) (tree : Tree) (words : List String)
    (asked : Request.ofArguments words ≠ .help) :
    ((run tree words readToml).ending.map Exit.code = .ok 2 ∨ InputsFail tree words readToml →
      Untouched tree (run tree words readToml)) ∧
      (Untouched tree (run tree words readToml) ↔ ¬Reports tree words readToml) := by
  refine ⟨?_, untouched_iff tree asked⟩
  intro failed
  rw [untouched_iff tree asked]
  intro reports
  cases failed with
  | inl ended => exact code_ne_of_reports reports ended
  | inr fails => exact not_reports_of_inputsFail fails reports

def overwritingWords : List String :=
  inputWords ++ ["--json-output", "o.json", "--save-layout", "u.json"]

def overwritingArguments : Arguments :=
  { inputArguments with
    jsonOutput := some ⟨"", ["o.json"]⟩
    saveLayout := some ⟨"", ["u.json"]⟩ }

theorem read_emptyList : Json.read (Tree.plainText "[]") = .ok (.list []) := by cbv

theorem readInputs_overwriting :
    (readInputs (inputTree "[]" "[]") overwritingArguments refuseSettings).result =
      .error (.unrecognised inputArguments.older) := by
  have paired := paired_of_read read_emptyList
  have plain := plainCheck_inputTree paired paired
  have same : readInputs (inputTree "[]" "[]") overwritingArguments refuseSettings =
      readInputs (inputTree "[]" "[]") inputArguments refuseSettings := by
    rw [readInputs, readInputs]
    rfl
  rw [same, plain.readInputs_result, readLayout_result plain.older, documentOfText, read_emptyList]
  rfl

theorem run_untouched_overwriting :
    Request.ofArguments overwritingWords ≠ .help ∧
      (run (inputTree "[]" "[]") overwritingWords refuseSettings).ending.map Exit.code = .ok 2 ∧
      Untouched (inputTree "[]" "[]")
        (run (inputTree "[]" "[]") overwritingWords refuseSettings) ∧
      ¬Reports (inputTree "[]" "[]") overwritingWords refuseSettings := by
  have understood : Request.ofArguments overwritingWords = .check overwritingArguments := rfl
  have asked : Request.ofArguments overwritingWords ≠ .help := by
    rw [understood]
    rintro ⟨⟩
  have ended :
      (run (inputTree "[]" "[]") overwritingWords refuseSettings).ending.map Exit.code = .ok 2 := by
    rw [run_ending _ understood, readInputs_overwriting]
    rfl
  obtain ⟨fails, effects⟩ :=
    run_untouched refuseSettings (inputTree "[]" "[]") overwritingWords asked
  have untouched := fails (Or.inl ended)
  exact ⟨asked, ended, untouched, effects.1 untouched⟩

end StorageCompat.Command

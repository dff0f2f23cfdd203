import StorageCompat.Proofs.Command.Verdict
import StorageCompat.Proofs.Files.Writing
import StorageCompat.Proofs.Layout.Saving
import StorageCompat.Proofs.Upgrade.Comparison

/-!
Layouts that a check saves. What is saved last is in the tree that the check leaves, and the file is
read as the layout that was saved; so whatever is compared with the file is compared with the
layout.
-/

open StorageCompat.Files (Path Tree)
open StorageCompat.Upgrade (Report cheapestScript comparison)

namespace StorageCompat.Command

variable {readToml : Toml.Reader}

theorem holdsText_of_saveAll {before : List Output} {last : Output} {tree : Tree}
    (saved : (saveAll (before ++ [last]) tree).2.result = .ok ()) :
    (saveAll (before ++ [last]) tree).1.HoldsText last.path (Json.lines last.value) := by
  induction before generalizing tree with
  | nil =>
      rw [List.nil_append, saveAll] at saved ⊢
      cases written : tree.save last.path (Json.lines last.value) with
      | error fault =>
          rw [written] at saved
          cases saved
      | ok tree' => exact Tree.holdsText_of_save written
  | cons output before ih =>
      rw [List.cons_append, saveAll] at saved ⊢
      cases written : tree.save output.path (Json.lines output.value) with
      | error fault =>
          rw [written] at saved
          cases saved
      | ok tree' =>
          rw [written] at saved
          exact ih saved

theorem conclude_tree {arguments : Arguments} {inputs : Inputs} {given : Report}
    (reported : (report arguments inputs).result = .ok given) (before : List Record)
    (tree : Tree) :
    (conclude arguments inputs before tree).tree =
      (saveAll (outputs arguments inputs given) tree).1 := by
  rw [conclude, reported]

theorem outputs_eq_concat {arguments : Arguments} {path : Path}
    (asked : arguments.saveLayout = some path) (inputs : Inputs) (given : Report) :
    ∃ before announcement, outputs arguments inputs given =
      before ++ [⟨path, inputs.newer.toDocument, announcement⟩] := by
  rw [outputs, asked]
  exact ⟨_, _, rfl⟩

/-- A check that comes to its end leaves the layout in the file that it was asked to save it in. -/
theorem holdsText_of_run {tree : Tree} {words : List String} {arguments : Arguments}
    {inputs : Inputs} {path : Path} {exit : Exit}
    (understood : Request.ofArguments words = .check arguments)
    (loaded : (readInputs tree arguments readToml).result = .ok inputs)
    (asked : arguments.saveLayout = some path)
    (ended : (run tree words readToml).ending = .ok exit) :
    (run tree words readToml).tree.HoldsText path (Json.lines inputs.newer.toDocument) := by
  rw [run_eq_conclude tree understood loaded] at ended ⊢
  rw [conclude_ending, bind_eq_ok_iff] at ended
  obtain ⟨given, reported, saved⟩ := ended
  obtain ⟨_, saved, _⟩ := (map_eq_ok_iff _ _ _).1 saved
  obtain ⟨before, announcement, last⟩ := outputs_eq_concat asked inputs given
  rw [conclude_tree reported, last]
  rw [last] at saved
  exact holdsText_of_saveAll saved

/-- A file that holds the document of a layout gives the layout, whatever contract is named. -/
theorem readLayout_lines {tree : Tree} {path : Path} {layout : Layout}
    (holds : tree.HoldsText path (Json.lines layout.toDocument))
    (kept : Json.read (Json.lines layout.toDocument) = .ok layout.toDocument)
    (contract : Option String) : (readLayout tree path contract).result = .ok layout := by
  rw [readLayout_result holds, Tree.plainText_eq (Json.not_mem_lines _), documentOfText, kept]
  exact Layout.ofDocument_toDocument layout

/-- The file gives the layout again, whatever contract is named, and what is compared with the file
is compared with the layout. -/
structure Reloads (tree : Tree) (path : Path) (layout : Layout) : Prop where
  reloaded : ∀ contract, (readLayout tree path contract).result = .ok layout
  older : ∀ contract policy newer,
    ((readLayout tree path contract).result >>= fun reloaded => comparison policy reloaded newer) =
      comparison policy layout newer
  newer : ∀ contract policy older,
    ((readLayout tree path contract).result >>= fun reloaded => comparison policy older reloaded) =
      comparison policy older layout

theorem reloads_of_holdsText {tree : Tree} {path : Path} {layout : Layout}
    (holds : tree.HoldsText path (Json.lines layout.toDocument))
    (kept : Json.read (Json.lines layout.toDocument) = .ok layout.toDocument) :
    Reloads tree path layout where
  reloaded := readLayout_lines holds kept
  older := by
    intro contract policy newer
    rw [readLayout_lines holds kept]
    rfl
  newer := by
    intro contract policy older
    rw [readLayout_lines holds kept]
    rfl

/-- The document of a layout gives the layout. If JSON keeps the document, then so does every file
that holds it, and a check that is asked to save the layout of the newer version leaves such a
file. -/
theorem saved_layout_reloads (readToml : Toml.Reader) :
    (∀ layout : Layout, Layout.ofDocument layout.toDocument = .ok layout) ∧
    (∀ (tree : Tree) (path : Path) (layout : Layout),
      tree.HoldsText path (Json.lines layout.toDocument) →
        Json.read (Json.lines layout.toDocument) = .ok layout.toDocument →
          Reloads tree path layout) ∧
    ∀ (tree : Tree) (words : List String) (arguments : Arguments) (inputs : Inputs) (path : Path)
      (exit : Exit), Request.ofArguments words = .check arguments →
        (readInputs tree arguments readToml).result = .ok inputs →
          arguments.saveLayout = some path → (run tree words readToml).ending = .ok exit →
            (run tree words readToml).tree.HoldsText path (Json.lines inputs.newer.toDocument) ∧
              (Json.read (Json.lines inputs.newer.toDocument) = .ok inputs.newer.toDocument →
                Reloads (run tree words readToml).tree path inputs.newer) := by
  refine ⟨Layout.ofDocument_toDocument, ?_, ?_⟩
  · intro tree path layout holds kept
    exact reloads_of_holdsText holds kept
  · intro tree words arguments inputs path exit understood loaded asked ended
    have holds := holdsText_of_run understood loaded asked ended
    exact ⟨holds, reloads_of_holdsText holds⟩

def savingWords : List String := inputWords ++ ["--save-layout", "s.json"]

def savingArguments : Arguments := { inputArguments with saveLayout := some ⟨"", ["s.json"]⟩ }

def versionsTree : Tree := inputTree emptyDocument countersDocument

def versionsInputs : Inputs where
  settings := {}
  older := .empty
  newer := Upgrade.twoCounters

theorem storable_twoCounters : Json.Storable Upgrade.twoCounters.toDocument := by
  apply Layout.storable_toDocument
  · intro slot member
    simp only [Upgrade.twoCounters, Layout.ofLabelled, List.map_cons, List.map_nil, List.mem_cons,
      List.not_mem_nil, or_false] at member
    obtain rfl | rfl := member
    · exact ⟨.text "V", .text "a"⟩
    · exact ⟨.text "V", .text "b"⟩
  · intro entry member
    obtain rfl : entry = ("t_uint256", .text "uint256") := List.mem_singleton.1 member
    exact .text "uint256"

theorem readInputs_versionsTree :
    (readInputs versionsTree savingArguments refuseSettings).result = .ok versionsInputs := by
  have plain := plainCheck_counters
  have same : readInputs versionsTree savingArguments refuseSettings =
      readInputs versionsTree inputArguments refuseSettings := by
    rw [readInputs, readInputs]
    rfl
  rw [same, versionsTree, plain.readInputs_result, readLayout_emptyDocument,
    readLayout_countersDocument]
  rfl

theorem isWritable_versionsInputs :
    Numeral.isWritable (cheapestScript (some versionsInputs.settings.costs) versionsInputs.older
      versionsInputs.newer).cost = true := by
  have additions : (cheapestScript (some versionsInputs.settings.costs) versionsInputs.older
      versionsInputs.newer).cost = 2 :=
    Upgrade.cheapestScript_cost_of_embeds _ _ _ (.of_empty Upgrade.twoCounters)
  rw [Numeral.isWritable_iff, additions]
  exact Numeral.lt_of_two_digits (by decide)

theorem exists_run_versionsTree :
    ∃ exit, (run versionsTree savingWords refuseSettings).ending = .ok exit := by
  have understood : Request.ofArguments savingWords = .check savingArguments := rfl
  obtain ⟨entries, reported⟩ :=
    exists_report savingArguments versionsInputs isWritable_versionsInputs
  have allowed : '\x00' ∉ "s.json".toList := by decide
  obtain ⟨tree', saved⟩ := versionsTree.exists_save allowed (by decide) (by decide) rfl
    (Json.lines versionsInputs.newer.toDocument)
  rw [run_eq_conclude versionsTree understood readInputs_versionsTree, conclude_ending, reported]
  refine ⟨_, (bind_eq_ok_iff _ _ _).2 ⟨_, rfl, (map_eq_ok_iff _ _ _).2 ⟨(), ?_, rfl⟩⟩⟩
  change (saveAll
    [⟨⟨"", ["s.json"]⟩, versionsInputs.newer.toDocument, _⟩] versionsTree).2.result = _
  rw [saveAll, saved]
  rfl

theorem saved_layout_reloads_counters :
    ∃ exit, Request.ofArguments savingWords = .check savingArguments ∧
      (readInputs versionsTree savingArguments refuseSettings).result = .ok versionsInputs ∧
        savingArguments.saveLayout = some ⟨"", ["s.json"]⟩ ∧
          (run versionsTree savingWords refuseSettings).ending = .ok exit ∧
            Json.read (Json.lines Upgrade.twoCounters.toDocument) =
              .ok Upgrade.twoCounters.toDocument ∧
            (run versionsTree savingWords refuseSettings).tree.HoldsText ⟨"", ["s.json"]⟩
              (Json.lines Upgrade.twoCounters.toDocument) ∧
              Reloads (run versionsTree savingWords refuseSettings).tree ⟨"", ["s.json"]⟩
                Upgrade.twoCounters := by
  obtain ⟨exit, ended⟩ := exists_run_versionsTree
  have kept := Json.read_lines storable_twoCounters
  obtain ⟨_, reloads, saves⟩ := saved_layout_reloads refuseSettings
  obtain ⟨holds, reloaded⟩ := saves versionsTree savingWords savingArguments versionsInputs
    ⟨"", ["s.json"]⟩ exit rfl readInputs_versionsTree rfl ended
  exact ⟨exit, rfl, readInputs_versionsTree, rfl, ended, kept, holds, reloads _ _ _ holds kept⟩

end StorageCompat.Command

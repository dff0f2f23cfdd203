import StorageCompat.Proofs.Command.Endings
import StorageCompat.Proofs.Command.Inputs
import StorageCompat.Proofs.Layout.Refusals

/-!
Which input files break a check off. Most malformed files are reported and end it with the exit code
of input errors, but some are not caught; here they are described by what stands in them.
-/

open StorageCompat.Alignment
open StorageCompat.Files (Path Tree)
open StorageCompat.Upgrade (cheapestScript scriptCosts)

namespace StorageCompat.Command

variable {readToml : Toml.Reader}

/-- The definition of the contract is found in compiler output and can be read, or its absence is
reported. -/
structure OutputReadable (entries : List (String × Value)) (contract : String) : Prop where
  searchable : SyntaxTree.Searchable entries (.text contract)
  extractable : ∀ definition,
    (SyntaxTree.contract (.object entries) (.text contract)).result = .ok definition →
      Layout.Extractable definition

/-- The text of an input file does not break a check off: it is no JSON or JSON of another kind than
expected, a saved layout whose types can be looked up, or compiler output that can be read as far
as it is looked at. Whole numbers are not too long anywhere, and escapes stand for characters. -/
@[irreducible]
def Orderly (contract : Option String) (text : String) : Prop :=
  match Json.read text with
  | .error .malformed => True
  | .error (.tooLong _) | .error .unpaired => False
  | .ok (.object entries) =>
      if isSavedLayout entries then Layout.TypesLookable (.object entries)
      else (contract.getD "").isEmpty = true ∨ OutputReadable entries (contract.getD "")
  | .ok _ => True

theorem settles_ofContract_of_found {entries : List (String × Value)} {contract : String}
    {definition : Value}
    (found : (SyntaxTree.contract (.object entries) (.text contract)).result = .ok definition) :
    Settles (Layout.ofContract definition).result ↔ Layout.Extractable definition := by
  have named := SyntaxTree.hasName_of_contract found
  cases definition with
  | object entries =>
      apply Layout.settles_ofContract_iff
      rw [SyntaxTree.hasName, SyntaxTree.entryOrNull] at named
      cases present : entries.lookup "name" with
      | some name => rfl
      | none =>
          rw [present] at named
          cases named
  | _ => cases named

theorem settles_extract_iff (entries : List (String × Value)) (contract : String) :
    Settles ((SyntaxTree.contract (.object entries) (.text contract)).result >>= fun definition =>
        (Layout.ofContract definition).result) ↔ OutputReadable entries contract := by
  rw [settles_bind_iff, SyntaxTree.settles_contract_iff]
  constructor
  · rintro ⟨searchable, extractable⟩
    refine ⟨searchable, ?_⟩
    intro definition found
    exact (settles_ofContract_of_found found).1 (extractable definition found)
  · rintro ⟨searchable, extractable⟩
    refine ⟨searchable, ?_⟩
    intro definition found
    exact (settles_ofContract_of_found found).2 (extractable definition found)

theorem settles_layoutOf_iff (path : Path) (contract : String) (entries : List (String × Value)) :
    Settles (layoutOf path contract (.object entries)) ↔
      if isSavedLayout entries then Layout.TypesLookable (.object entries)
      else contract.isEmpty = true ∨ OutputReadable entries contract := by
  rw [layoutOf]
  cases isSavedLayout entries with
  | true => exact Layout.settles_ofDocument_iff (.object entries)
  | false =>
      cases contract.isEmpty with
      | true =>
          exact iff_of_true ((settles_error_iff (.contractNotChosen path)).2 rfl) (Or.inl rfl)
      | false =>
          exact (settles_extract_iff entries contract).trans
            (or_iff_right Bool.false_ne_true).symm

theorem settles_readLayout_iff (tree : Tree) (path : Path) (contract : Option String)
    (text : String) (holds : tree.HoldsText path text) :
    Settles (readLayout tree path contract).result ↔ Orderly contract (Tree.plainText text) := by
  rw [readLayout_result holds, documentOfText, Orderly]
  cases Json.read (Tree.plainText text) with
  | error refusal =>
      cases refusal with
      | malformed => exact iff_of_true ((settles_error_iff .notJson).2 rfl) trivial
      | tooLong digits =>
          exact iff_of_false (not_settles_error (.numberTooLong (some digits)) rfl) id
      | unpaired => exact iff_of_false (not_settles_error (.file .notUtf8) rfl) id
  | ok value =>
      cases value with
      | object entries => exact settles_layoutOf_iff path (contract.getD "") entries
      | _ => exact iff_of_true ((settles_error_iff (.unrecognised path)).2 rfl) trivial

/-- As far as the text is read, no escape in it stands for half of a surrogate pair. -/
def Paired (text : String) : Prop := Json.read (Tree.plainText text) ≠ .error .unpaired

theorem paired_of_read {text : String} {value : Value}
    (read : Json.read (Tree.plainText text) = .ok value) : Paired text := by
  rw [Paired, read]
  exact nofun

/-- A check of two files with texts, without settings and without anything to save. -/
structure PlainCheck (tree : Tree) (words : List String) (arguments : Arguments)
    (older newer : String) : Prop where
  understood : Request.ofArguments words = .check arguments
  unconfigured : arguments.config = none
  usualAbsent : tree.exists? usualSettings = .ok false
  noReport : arguments.jsonOutput = none
  noLayout : arguments.saveLayout = none
  olderPaired : Paired older
  newerPaired : Paired newer
  older : tree.HoldsText arguments.older older
  newer : tree.HoldsText arguments.newer newer

namespace PlainCheck

variable {tree : Tree} {words : List String} {arguments : Arguments} {older newer : String}

theorem readInputs_result (plain : PlainCheck tree words arguments older newer) :
    (readInputs tree arguments readToml).result = do
      let first ← (readLayout tree arguments.older arguments.contract).result
      let second ← (readLayout tree arguments.newer arguments.contractOfNewer).result
      return { settings := {}, older := first, newer := second } := by
  simp only [readInputs, settingsFor, plain.unconfigured, plain.usualAbsent, Logged.result_bind,
    Logged.result_lift, Logged.result_pure]
  rfl

theorem settles_readInputs_iff (plain : PlainCheck tree words arguments older newer) :
    Settles (readInputs tree arguments readToml).result ↔
      Orderly arguments.contract (Tree.plainText older) ∧
        ∀ first, (readLayout tree arguments.older arguments.contract).result = .ok first →
          Orderly arguments.contractOfNewer (Tree.plainText newer) := by
  rw [plain.readInputs_result, settles_bind_iff, settles_readLayout_iff _ _ _ _ plain.older]
  apply and_congr_right
  intro _
  apply forall₂_congr
  intro first _
  rw [settles_bind_iff, settles_readLayout_iff _ _ _ _ plain.newer]
  exact and_iff_left fun second _ => settles_ok _

theorem conclude_ending_eq (plain : PlainCheck tree words arguments older newer) (inputs : Inputs)
    (before : List Record) :
    (conclude arguments inputs before tree).ending =
      (report arguments inputs).result.map verdict := by
  have nothing (report : Upgrade.Report) : outputs arguments inputs report = [] := by
    rw [outputs, plain.noReport, plain.noLayout]
    rfl
  rw [conclude_ending]
  simp only [nothing]
  cases (report arguments inputs).result <;> rfl

theorem exists_conclude_ending_iff (plain : PlainCheck tree words arguments older newer)
    (inputs : Inputs) (before : List Record) :
    (∃ exit, (conclude arguments inputs before tree).ending = .ok exit) ↔
      ∃ least, IsLeast (scriptCosts (some inputs.settings.costs) inputs.older inputs.newer) least ∧
        least < 10 ^ Numeral.longest := by
  rw [← Upgrade.isWritable_iff_isLeast, plain.conclude_ending_eq]
  by_cases writable : Numeral.isWritable
      (cheapestScript (some inputs.settings.costs) inputs.older inputs.newer).cost = true
  · obtain ⟨entries, reported⟩ := exists_report arguments inputs writable
    rw [reported]
    exact iff_of_true ⟨_, rfl⟩ writable
  · rw [report_of_not_writable arguments inputs writable]
    refine iff_of_false ?_ writable
    rintro ⟨exit, ⟨⟩⟩

end PlainCheck

/-- A check comes to its end exactly if the text of the older version is orderly and, where it gives
a layout, the text of the newer one is too, and, where both give layouts, the least cost of a script
between them can be written. -/
theorem run_ends_iff (readToml : Toml.Reader) (tree : Tree) (words : List String)
    (arguments : Arguments) (older newer : String)
    (plain : PlainCheck tree words arguments older newer) :
    (∃ exit, (run tree words readToml).ending = .ok exit) ↔
      Orderly arguments.contract (Tree.plainText older) ∧
        ∀ first, (readLayout tree arguments.older arguments.contract).result = .ok first →
          Orderly arguments.contractOfNewer (Tree.plainText newer) ∧
            ∀ second,
              (readLayout tree arguments.newer arguments.contractOfNewer).result = .ok second →
                ∃ least, IsLeast (scriptCosts none first second) least ∧
                  least < 10 ^ Numeral.longest := by
  rw [exists_run_ending_iff tree plain.understood, plain.settles_readInputs_iff,
    plain.readInputs_result]
  simp only [plain.exists_conclude_ending_iff]
  simp only [bind_eq_ok_iff, pure_eq_ok_iff]
  constructor
  · rintro ⟨⟨orderly, orderly'⟩, ends⟩
    refine ⟨orderly, ?_⟩
    intro first read
    refine ⟨orderly' first read, ?_⟩
    intro second read'
    exact ends _ ⟨first, read, second, read', rfl⟩
  · rintro ⟨orderly, ends⟩
    refine ⟨⟨orderly, fun first read => (ends first read).1⟩, ?_⟩
    rintro _ ⟨first, read, second, read', rfl⟩
    exact (ends first read).2 second read'

def inputTree (older newer : String) : Tree where
  files := [(⟨some 0, ["o.json"]⟩, older.toUTF8), (⟨some 0, ["u.json"]⟩, newer.toUTF8)]
  directories := []

def inputWords : List String :=
  ["--original", "o.json", "--updated", "u.json", "--contract", "V"]

def inputArguments : Arguments where
  older := ⟨"", ["o.json"]⟩
  newer := ⟨"", ["u.json"]⟩
  contract := some "V"

theorem plainCheck_inputTree {older newer : String} (olderPaired : Paired older)
    (newerPaired : Paired newer) :
    PlainCheck (inputTree older newer) inputWords inputArguments older newer where
  understood := rfl
  unconfigured := rfl
  usualAbsent := by
    rw [Tree.exists?_of_resolve (resolve_usualSettings _)]
    rfl
  noReport := rfl
  noLayout := rfl
  older := ⟨_, Tree.resolve_name _ (by decide) (by decide) (by decide), rfl, rfl⟩
  newer := ⟨_, Tree.resolve_name _ (by decide) (by decide) (by decide), rfl, rfl⟩
  olderPaired := olderPaired
  newerPaired := newerPaired

def emptyDocument : String := "\x7b\"storage\": [], \"types\": \x7b\x7d\x7d"

def countersDocument : String :=
  "\x7b\"storage\": [\x7b\"contract\": \"V\", \"label\": \"a\", \"type\": \"t_uint256\"\x7d, " ++
    "\x7b\"contract\": \"V\", \"label\": \"b\", \"type\": \"t_uint256\"\x7d], " ++
    "\"types\": \x7b\"t_uint256\": \x7b\"label\": \"uint256\"\x7d\x7d\x7d"

theorem read_emptyDocument : Json.read (Tree.plainText emptyDocument) =
    .ok (.object [("storage", .list []), ("types", .object [])]) := by cbv

set_option maxRecDepth 2000 in
theorem read_countersDocument : Json.read (Tree.plainText countersDocument) =
    .ok Upgrade.twoCounters.toDocument := by
  have plain : Tree.plainText countersDocument = countersDocument := by cbv
  have read : Json.read countersDocument = .ok (.object [("storage", .list [
      .object [("contract", .text "V"), ("label", .text "a"), ("type", .text "t_uint256")],
      .object [("contract", .text "V"), ("label", .text "b"), ("type", .text "t_uint256")]]),
      ("types", .object [("t_uint256", .object [("label", .text "uint256")])])]) := by cbv
  rw [plain, read]
  rfl

theorem plainCheck_counters :
    PlainCheck (inputTree emptyDocument countersDocument) inputWords inputArguments emptyDocument
      countersDocument :=
  plainCheck_inputTree (paired_of_read read_emptyDocument) (paired_of_read read_countersDocument)

theorem readLayout_emptyDocument :
    (readLayout (inputTree emptyDocument countersDocument) inputArguments.older
      inputArguments.contract).result = .ok .empty := by
  rw [readLayout_result plainCheck_counters.older, documentOfText, read_emptyDocument]
  rfl

theorem readLayout_countersDocument :
    (readLayout (inputTree emptyDocument countersDocument) inputArguments.newer
      inputArguments.contractOfNewer).result = .ok Upgrade.twoCounters := by
  rw [readLayout_result plainCheck_counters.newer, documentOfText, read_countersDocument]
  rfl

theorem orderly_of_readLayout {tree : Tree} {path : Path} {contract : Option String}
    {text : String} {layout : Layout} (holds : tree.HoldsText path text)
    (read : (readLayout tree path contract).result = .ok layout) :
    Orderly contract (Tree.plainText text) := by
  rw [← settles_readLayout_iff tree path contract text holds, read]
  exact settles_ok layout

/-- A reader that finds no settings file well written. -/
def refuseSettings : Toml.Reader := fun _ => .error .malformed

/-- Both saved layouts are orderly, and adding two variables costs little. -/
theorem run_ends_iff_counters :
    PlainCheck (inputTree emptyDocument countersDocument) inputWords inputArguments emptyDocument
        countersDocument ∧
      Orderly inputArguments.contract (Tree.plainText emptyDocument) ∧
        Orderly inputArguments.contractOfNewer (Tree.plainText countersDocument) ∧
          IsLeast (scriptCosts none .empty Upgrade.twoCounters) 2 ∧ 2 < 10 ^ Numeral.longest ∧
            ∃ exit, (run (inputTree emptyDocument countersDocument) inputWords
              refuseSettings).ending = .ok exit := by
  have plain := plainCheck_counters
  have older := orderly_of_readLayout plain.older readLayout_emptyDocument
  have newer := orderly_of_readLayout plain.newer readLayout_countersDocument
  have additions : (cheapestScript none .empty Upgrade.twoCounters).cost = 2 :=
    Upgrade.cheapestScript_cost_of_embeds _ _ _ (.of_empty Upgrade.twoCounters)
  have least : IsLeast (scriptCosts none .empty Upgrade.twoCounters) 2 :=
    additions ▸ Upgrade.isLeast_cheapestScript none .empty Upgrade.twoCounters
  have short : 2 < 10 ^ Numeral.longest := Numeral.lt_of_two_digits (by decide)
  refine ⟨plain, older, newer, least, short, ?_⟩
  rw [run_ends_iff _ _ _ _ _ _ plain]
  refine ⟨older, ?_⟩
  intro first read
  obtain rfl := Except.ok.inj (readLayout_emptyDocument.symm.trans read)
  refine ⟨newer, ?_⟩
  intro second read'
  obtain rfl := Except.ok.inj (readLayout_countersDocument.symm.trans read')
  exact ⟨2, least, short⟩

def listedSources : String := "\x7b\"sources\": []\x7d"

theorem read_listedSources :
    Json.read (Tree.plainText listedSources) = .ok (.object [("sources", .list [])]) := by cbv

theorem not_orderly_listedSources : ¬Orderly (some "V") (Tree.plainText listedSources) := by
  have unsaved : isSavedLayout [("sources", .list [])] = false := by decide
  have named : ("V" : String).isEmpty = false := by decide
  have several : SyntaxTree.isNode SyntaxTree.sourceUnit (.object [("sources", .list [])]) =
      false := by decide
  have listed : List.lookup "sources" [("sources", Value.list [])] = some (.list []) := by simp
  rw [Orderly, read_listedSources]
  simp only [unsaved, Bool.false_eq_true, if_false, Option.getD_some, named, false_or]
  rintro ⟨single | impossible, -⟩
  · rw [several] at single
    cases single
  · rw [listed] at impossible
    exact impossible

/-- Such output breaks a check off. -/
theorem run_listedSources :
    PlainCheck (inputTree listedSources listedSources) inputWords inputArguments listedSources
        listedSources ∧
      ¬∃ exit, (run (inputTree listedSources listedSources) inputWords
        refuseSettings).ending = .ok exit := by
  have paired := paired_of_read read_listedSources
  have plain := plainCheck_inputTree paired paired
  refine ⟨plain, ?_⟩
  rw [exists_run_ending_iff _ plain.understood, plain.settles_readInputs_iff]
  rintro ⟨⟨orderly, -⟩, -⟩
  exact not_orderly_listedSources orderly

end StorageCompat.Command

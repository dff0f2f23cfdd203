import Mathlib.Order.Bounds.Basic
import StorageCompat.Proofs.Command.Refusals
import StorageCompat.Proofs.Json.Numbers
import StorageCompat.Proofs.Settings

/-!
One verdict everywhere. The report of a check, its exit code and the verdict under the usual policy
agree, whatever the settings and the arguments are; only a cost that is too long to be written keeps
a check from giving a verdict.
-/

open StorageCompat.Alignment
open StorageCompat.Files (Path Tree)
open StorageCompat.Upgrade (Report broken cheapestScript scriptCosts)

namespace StorageCompat.Command

variable {readToml : Toml.Reader}

/-- A check that gives a report agrees with a verdict in all that it says, and in its exit code once
everything is saved that the arguments ask for. -/
structure Agrees (tree : Tree) (words : List String) (readToml : Toml.Reader)
    (arguments : Arguments) (inputs : Inputs) (given : Report) (safe : Bool) : Prop where
  reported : (report arguments inputs).result = .ok given
  printed : (run tree words readToml).printed = given.printed
  told : given.safe = safe
  count : given.incompatibleCount = 0 ↔ safe = true
  /-- Other arguments, and other settings with the same costs, count the same. -/
  counted : ∀ (other : Arguments) (settings : Settings), settings.costs = inputs.settings.costs →
    ∃ given', (report other { inputs with settings }).result = .ok given' ∧
      given'.incompatibleCount = given.incompatibleCount
  code : (saveAll (outputs arguments inputs given) tree).2.result = .ok () →
    (run tree words readToml).ending.map Exit.code = .ok (if safe then 0 else 1)

theorem run_eq_conclude (tree : Tree) {words : List String} {arguments : Arguments}
    {inputs : Inputs} (understood : Request.ofArguments words = .check arguments)
    (loaded : (readInputs tree arguments readToml).result = .ok inputs) :
    run tree words readToml =
      conclude arguments inputs (readInputs tree arguments readToml).log tree := by
  rw [run, understood]
  change check tree arguments readToml = _
  rw [check, loaded]

theorem conclude_printed {arguments : Arguments} {inputs : Inputs} {given : Report}
    (reported : (report arguments inputs).result = .ok given) (before : List Record)
    (tree : Tree) : (conclude arguments inputs before tree).printed = given.printed := by
  rw [conclude, reported]

theorem conclude_code {arguments : Arguments} {inputs : Inputs} {given : Report}
    (reported : (report arguments inputs).result = .ok given) (before : List Record)
    (tree : Tree) (saved : (saveAll (outputs arguments inputs given) tree).2.result = .ok ()) :
    (conclude arguments inputs before tree).ending.map Exit.code =
      .ok (if given.safe then 0 else 1) := by
  have ending : (conclude arguments inputs before tree).ending = .ok (verdict given) := by
    rw [conclude_ending, reported]
    change Except.map _ (saveAll _ _).2.result = _
    rw [saved]
    rfl
  rw [ending, verdict]
  cases given.safe <;> rfl

theorem run_ending_of_not_writable (tree : Tree) {words : List String} {arguments : Arguments}
    {inputs : Inputs} (understood : Request.ofArguments words = .check arguments)
    (loaded : (readInputs tree arguments readToml).result = .ok inputs)
    (long : ¬Numeral.isWritable
      (cheapestScript (some inputs.settings.costs) inputs.older inputs.newer).cost = true) :
    (run tree words readToml).ending = .error (.numberTooLong none) := by
  rw [run_eq_conclude tree understood loaded, conclude_ending,
    report_of_not_writable arguments inputs long]
  rfl

theorem agrees_of_writable (tree : Tree) {words : List String} {arguments : Arguments}
    {inputs : Inputs} (understood : Request.ofArguments words = .check arguments)
    (loaded : (readInputs tree arguments readToml).result = .ok inputs)
    (writable : Numeral.isWritable
      (cheapestScript (some inputs.settings.costs) inputs.older inputs.newer).cost = true) :
    ∃ given, Agrees tree words readToml arguments inputs given
      (broken none inputs.older inputs.newer).isEmpty := by
  obtain ⟨entries, reported⟩ := exists_report arguments inputs writable
  have same := Upgrade.isEmpty_broken_eq (some inputs.settings.costs) none inputs.older inputs.newer
  refine ⟨_, { reported, printed := ?_, told := same, count := ?_, counted := ?_, code := ?_ }⟩
  · rw [run_eq_conclude tree understood loaded]
    exact conclude_printed reported _ tree
  · rw [← same, List.isEmpty_iff_length_eq_zero]
  · intro other settings costs
    rw [← costs] at writable ⊢
    obtain ⟨entries', reported'⟩ := exists_report other { inputs with settings } writable
    exact ⟨_, reported', rfl⟩
  · intro saved
    rw [run_eq_conclude tree understood loaded, conclude_code reported _ tree saved]
    exact congrArg (fun safe : Bool => Except.ok (if safe then 0 else 1)) same

/-- A check whose inputs are read agrees with the usual verdict on the two layouts, unless even the
least cost of a script between them is too long to be written under its own costs; then it breaks
off. Texts with an escape for half of a surrogate pair are not among the inputs that are read. -/
theorem run_verdict (readToml : Toml.Reader) (tree : Tree) (words : List String)
    (arguments : Arguments) (inputs : Inputs)
    (understood : Request.ofArguments words = .check arguments)
    (loaded : (readInputs tree arguments readToml).result = .ok inputs) :
    ∃ least,
      IsLeast (scriptCosts (some inputs.settings.costs) inputs.older inputs.newer) least ∧
        ((least < 10 ^ Numeral.longest ∧ ∃ safe given,
            (Upgrade.isSafe {} inputs.older inputs.newer).result = .ok safe ∧
              Agrees tree words readToml arguments inputs given safe) ∨
          (10 ^ Numeral.longest ≤ least ∧
            (run tree words readToml).ending = .error (.numberTooLong none))) := by
  refine ⟨_, Upgrade.isLeast_cheapestScript _ _ _, ?_⟩
  by_cases writable : Numeral.isWritable
      (cheapestScript (some inputs.settings.costs) inputs.older inputs.newer).cost = true
  · have short := (Numeral.isWritable_iff _).1 writable
    have judged := Upgrade.isSafe_eq_isEmpty_broken {} inputs.older inputs.newer
      (Upgrade.isWritable_standard _ _ _ writable)
    obtain ⟨given, agrees⟩ := agrees_of_writable tree understood loaded writable
    exact Or.inl ⟨short, _, given, judged, agrees⟩
  · have refused := run_ending_of_not_writable tree understood loaded writable
    rw [Numeral.isWritable_iff, Nat.not_lt] at writable
    exact Or.inr ⟨writable, refused⟩

def additionText (append : Nat) : String :=
  "[storage_check.costs]\nappend = " ++ toString (append : Int)

def additionDocument (append : Nat) : Value :=
  .object [("storage_check", .object [("costs", .object [("append", .int append)])])]

/-- A reader that knows this file only. -/
def readAddition (append : Nat) : Toml.Reader := fun text =>
  if text = additionText append then .ok (additionDocument append) else .error .malformed

def additionCosts (append : Nat) (append_pos : 0 < append) : Costs :=
  { Costs.standard with append, append_pos }

def additionTree (append : Nat) : Tree where
  files :=
    (⟨some 0, ["upgrade_check.toml"]⟩, (additionText append).toUTF8) ::
      (inputTree emptyDocument countersDocument).files
  directories := []

def additionInputs (append : Nat) (positive : 0 < append) : Inputs where
  settings := { costs := additionCosts append positive, source := some usualSettings }
  older := .empty
  newer := Upgrade.twoCounters

theorem plainText_additionText (append : Nat) :
    Tree.plainText (additionText append) = additionText append := by
  apply Tree.plainText_eq
  intro member
  unfold additionText at member
  rw [String.toList_append, List.mem_append] at member
  obtain front | number := member
  · exact absurd front (by decide)
  · rw [Json.toList_toString, if_neg (Int.natCast_nonneg append).not_gt] at number
    exact Text.ne_of_isDigit (Numeral.isDigit_toDigits number) (by decide) rfl

theorem configures_additionDocument {append : Nat} (positive : 0 < append) :
    Settings.Configures [("storage_check", .object [("costs", .object [("append", .int append)])])]
      false (additionCosts append positive).amounts := by
  have checks : Settings.OnlyNames [("costs", .object [("append", .int append)])]
      ["include_equal", "costs"] := by simp [Settings.OnlyNames, Entries.names]
  have actions : Settings.OnlyNames [("append", .int append)]
      ["typechange", "rename", "replace", "delete", "append"] := by
    simp [Settings.OnlyNames, Entries.names]
  have absent {name : String} (other : name ≠ "append") :
      List.lookup name [("append", Value.int append)] = none := by simp [other]
  exact .intro (Or.inl rfl) checks (Or.inr ⟨rfl, rfl⟩) (Or.inl rfl) actions
    { typeChange := Or.inr ⟨absent (by decide), rfl⟩
      rename := Or.inr ⟨absent (by decide), rfl⟩
      replace := Or.inr ⟨absent (by decide), rfl⟩
      delete := Or.inr ⟨absent (by decide), rfl⟩
      append := Or.inl rfl }

theorem settingsOfText_addition {append : Nat} (positive : 0 < append) (path : Path) :
    settingsOfText path (Tree.plainText (additionText append)) (readAddition append) =
      .ok { costs := additionCosts append positive } := by
  have known : readAddition append (additionText append) = .ok (additionDocument append) :=
    if_pos rfl
  rw [plainText_additionText, settingsOfText, known]
  exact (mapError_eq_ok_iff _ _ _).2 ((Settings.ofEntries_eq_ok_iff _ _).2
    ⟨configures_additionDocument positive, rfl⟩)

theorem cost_additions {append : Nat} (positive : 0 < append) :
    (cheapestScript (some (additionCosts append positive)) .empty Upgrade.twoCounters).cost =
      2 * append := by
  rw [Upgrade.cheapestScript_cost_of_embeds _ _ _ (.of_empty _)]
  rfl

theorem readInputs_additionTree {append : Nat} (positive : 0 < append) :
    (readInputs (additionTree append) inputArguments (readAddition append)).result =
      .ok (additionInputs append positive) := by
  have settings : (additionTree append).HoldsText usualSettings (additionText append) :=
    ⟨_, resolve_usualSettings _, rfl, rfl⟩
  have older : (additionTree append).HoldsText inputArguments.older emptyDocument :=
    ⟨_, Tree.resolve_name _ (by decide) (by decide) (by decide), rfl, rfl⟩
  have newer : (additionTree append).HoldsText inputArguments.newer countersDocument :=
    ⟨_, Tree.resolve_name _ (by decide) (by decide) (by decide), rfl, rfl⟩
  have unnamed : inputArguments.config = none := rfl
  rw [readInputs, Logged.result_bind, unnamed, settingsFor_usual settings,
    settingsOfText_addition positive]
  change Logged.result (_ >>= _) = _
  rw [Logged.result_bind, readLayout_result older, documentOfText, read_emptyDocument]
  change Logged.result (_ >>= _) = _
  rw [Logged.result_bind, readLayout_result newer, documentOfText, read_countersDocument]
  rfl

theorem isSafe_twoCounters :
    (Upgrade.isSafe {} .empty Upgrade.twoCounters).result = .ok true := by
  have short : 2 * 1 < 10 ^ Numeral.longest := Numeral.lt_of_two_digits (by decide)
  exact (Upgrade.isSafe_eq_true_iff {} _ _).2 ⟨.of_empty _, short⟩

/-- An upgrade that adds two variables, at a cost of seven each, is safe in every respect. -/
theorem run_verdict_additions :
    ∃ inputs given, Request.ofArguments inputWords = .check inputArguments ∧
      (readInputs (additionTree 7) inputArguments (readAddition 7)).result = .ok inputs ∧
        IsLeast (scriptCosts (some inputs.settings.costs) inputs.older inputs.newer) 14 ∧
          14 < 10 ^ Numeral.longest ∧
            (Upgrade.isSafe {} inputs.older inputs.newer).result = .ok true ∧
              Agrees (additionTree 7) inputWords (readAddition 7) inputArguments inputs given true ∧
                (run (additionTree 7) inputWords (readAddition 7)).ending.map Exit.code =
                  .ok 0 := by
  have positive : 0 < 7 := by decide
  have loaded := readInputs_additionTree positive
  have short : 14 < 10 ^ Numeral.longest := Numeral.lt_of_two_digits (by decide)
  have additions : IsLeast (scriptCosts (some (additionCosts 7 positive)) .empty
      Upgrade.twoCounters) (2 * 7) := by
    rw [← cost_additions positive]
    exact Upgrade.isLeast_cheapestScript _ _ _
  obtain ⟨least, isLeast, verdict⟩ :=
    run_verdict _ _ inputWords inputArguments _ rfl loaded
  obtain rfl := isLeast.unique additions
  obtain ⟨-, judged, given, same, agrees⟩ | ⟨long, -⟩ := verdict
  · obtain rfl := Except.ok.inj (same.symm.trans isSafe_twoCounters)
    exact ⟨_, given, rfl, loaded, additions, short, isSafe_twoCounters, agrees, agrees.code rfl⟩
  · exact absurd long (Nat.not_le.2 short)

def greatest : Nat := 10 ^ Numeral.longest - 1

/-- A check of a safe upgrade can come to no exit code, though there is nothing to save. -/
theorem run_dearAdditions :
    ∃ inputs, Request.ofArguments inputWords = .check inputArguments ∧
      (readInputs (additionTree greatest) inputArguments (readAddition greatest)).result =
          .ok inputs ∧
        (∀ given, outputs inputArguments inputs given = []) ∧
          (Upgrade.isSafe {} inputs.older inputs.newer).result = .ok true ∧
            (run (additionTree greatest) inputWords (readAddition greatest)).ending.map
              Exit.code ≠ .ok 0 := by
  have large : 1 < 10 ^ Numeral.longest := Numeral.lt_of_two_digits (by decide)
  have next : greatest + 1 = 10 ^ Numeral.longest := Nat.sub_add_cancel (by omega)
  have positive : 0 < greatest := by omega
  have loaded := readInputs_additionTree positive
  have long : ¬Numeral.isWritable (cheapestScript (some (additionCosts _ positive)) .empty
      Upgrade.twoCounters).cost = true := by
    rw [Numeral.isWritable_iff, cost_additions]
    omega
  refine ⟨_, rfl, loaded, fun _ => rfl, isSafe_twoCounters, ?_⟩
  rw [run_ending_of_not_writable _ rfl loaded long]
  rintro ⟨⟩

end StorageCompat.Command

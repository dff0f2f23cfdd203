import StorageCompat.Proofs.Settling
import StorageCompat.SyntaxTree

/-!
The search for a contract. Files are read one after another up to the one that has the contract,
so the search is broken off exactly if the files are not listed in an object, or if one of those
that are read is no object itself.
-/

namespace StorageCompat

def Value.isObject : Value → Bool
  | .object _ => true
  | _ => false

theorem Value.exists_eq_object (value : Value) (isObject : value.isObject = true) :
    ∃ entries, value = .object entries := by
  cases value with
  | object entries => exact ⟨entries, rfl⟩
  | _ => cases isObject

namespace SyntaxTree

def contractInFile? (name : Value) : Value → Option Value
  | .object entries => (entries.lookup "ast").bind (contractIn? name)
  | _ => none

theorem exists_tree? (name : Value) (path : String) (entries : List (String × Value)) :
    ∃ found, (tree? path (.object entries)).result = .ok found ∧
      found.bind (contractIn? name) = contractInFile? name (.object entries) := by
  rw [tree?, contractInFile?, Value.entry?]
  cases entries.lookup "ast" with
  | none => exact ⟨none, rfl, rfl⟩
  | some tree =>
      cases tree with
      | null => exact ⟨none, rfl, rfl⟩
      | _ => exact ⟨some _, rfl, rfl⟩

theorem contractAmong?_object (name : Value) (path : String) (entries : List (String × Value))
    (rest : List (String × Value)) :
    (contractAmong? name ((path, .object entries) :: rest)).result =
      match contractInFile? name (.object entries) with
      | some contract => .ok (some contract)
      | none => (contractAmong? name rest).result := by
  obtain ⟨found, read, same⟩ := exists_tree? name path entries
  rw [contractAmong?, Logged.result_bind, read, ← same]
  change (match found.bind (contractIn? name) with
    | some contract => (pure (some contract) : Logged (Option Value))
    | none => contractAmong? name rest).result = _
  cases found.bind (contractIn? name) <;> rfl

theorem contractAmong?_other (name : Value) (path : String) {file : Value}
    (rest : List (String × Value)) (other : file.isObject = false) :
    (contractAmong? name ((path, file) :: rest)).result = .error (.unsuited .optionalEntry) := by
  cases file with
  | object entries => cases other
  | _ => rfl

/-- The files up to the one that has the contract are objects. -/
def FilesReadable (name : Value) : List (String × Value) → Prop :=
  UpToFirst (fun file => contractInFile? name file.2 = none) (fun file => file.2.isObject = true)

/-- The search gives the first contract in files that can be read, and is broken off at the first
file that cannot. -/
theorem contractAmong?_cases (name : Value) (files : List (String × Value)) :
    (FilesReadable name files ∧ (contractAmong? name files).result =
        .ok (files.findSome? fun file => contractInFile? name file.2)) ∨
      (¬FilesReadable name files ∧
        (contractAmong? name files).result = .error (.unsuited .optionalEntry)) := by
  induction files with
  | nil => exact Or.inl ⟨upToFirst_nil _ _, rfl⟩
  | cons file rest ih =>
      obtain ⟨path, file⟩ := file
      rw [FilesReadable, upToFirst_cons_iff, ← FilesReadable, List.findSome?_cons]
      cases readable : file.isObject with
      | false => exact Or.inr ⟨by simp, contractAmong?_other name path rest readable⟩
      | true =>
          obtain ⟨entries, rfl⟩ := file.exists_eq_object readable
          rw [contractAmong?_object]
          cases contractInFile? name (.object entries) with
          | none => simpa using ih
          | some contract => simp

theorem settles_contractAmong?_iff (name : Value) (files : List (String × Value)) :
    Settles (contractAmong? name files).result ↔ FilesReadable name files := by
  obtain ⟨readable, read⟩ | ⟨unreadable, broken⟩ := contractAmong?_cases name files
  · rw [read]
    exact iff_of_true (settles_ok _) readable
  · rw [broken]
    exact iff_of_false (not_settles_error _ rfl) unreadable

/-- Compiler output can be searched for the contract: it is a single tree, it lists no files, or it
lists them in an object. -/
def Searchable (entries : List (String × Value)) (name : Value) : Prop :=
  isNode sourceUnit (.object entries) = true ∨
    match entries.lookup "sources" with
    | none => True
    | some (.object files) => FilesReadable name files
    | some _ => False

theorem settles_contract?_iff (entries : List (String × Value)) (name : Value) :
    Settles (contract? (.object entries) name).result ↔ Searchable entries name := by
  rw [contract?, Searchable]
  cases isNode sourceUnit (.object entries) with
  | true => exact iff_of_true (settles_ok _) (Or.inl rfl)
  | false =>
      rw [or_iff_right Bool.false_ne_true, if_neg Bool.false_ne_true, Logged.result_bind,
        Logged.result_lift, files, Value.entry?]
      cases entries.lookup "sources" with
      | none => exact iff_of_true (settles_ok none) trivial
      | some listed =>
          cases listed with
          | object found => exact settles_contractAmong?_iff name found
          | _ => exact iff_of_false (not_settles_error (.unsuited .entries) rfl) id

theorem settles_contract_iff (entries : List (String × Value)) (name : Value) :
    Settles (contract (.object entries) name).result ↔ Searchable entries name := by
  rw [← settles_contract?_iff, contract, Logged.result_bind, settles_bind_iff]
  apply and_iff_left
  intro found _
  cases found with
  | none => exact (settles_error_iff _).2 rfl
  | some contract => exact settles_ok contract

theorem hasName_of_contractIn? {name tree found : Value}
    (located : contractIn? name tree = some found) :
    hasName name found = true :=
  List.find?_some located

theorem hasName_of_contractInFile? {name file found : Value}
    (located : contractInFile? name file = some found) : hasName name found = true := by
  cases file with
  | object entries =>
      obtain ⟨tree, _, located⟩ := Option.bind_eq_some_iff.1 located
      exact hasName_of_contractIn? located
  | _ => cases located

theorem hasName_of_contractAmong? {name found : Value} {files : List (String × Value)}
    (located : (contractAmong? name files).result = .ok (some found)) :
    hasName name found = true := by
  obtain ⟨-, read⟩ | ⟨-, broken⟩ := contractAmong?_cases name files
  · rw [read] at located
    obtain ⟨file, _, located⟩ := List.exists_of_findSome?_eq_some (Except.ok.inj located)
    exact hasName_of_contractInFile? located
  · rw [broken] at located
    cases located

theorem hasName_of_contract {source name found : Value}
    (located : (contract source name).result = .ok found) : hasName name found = true := by
  rw [contract, Logged.result_bind, bind_eq_ok_iff] at located
  obtain ⟨located?, searched, given⟩ := located
  cases located? with
  | none => cases given
  | some contract =>
      cases given
      rw [contract?] at searched
      split at searched
      case isTrue => exact hasName_of_contractIn? (Except.ok.inj searched)
      case isFalse =>
          rw [Logged.result_bind, bind_eq_ok_iff] at searched
          obtain ⟨files, _, searched⟩ := searched
          exact hasName_of_contractAmong? searched

end SyntaxTree

end StorageCompat

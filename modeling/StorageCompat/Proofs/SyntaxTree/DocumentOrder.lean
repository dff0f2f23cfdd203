import StorageCompat.Proofs.SyntaxTree.Search
import StorageCompat.Proofs.Value.Positions

/-!
The order of searches. The nodes of a kind are listed in the order of their positions in the tree,
each once and before all that is nested in it. A contract is the first of its name among the
declarations of contracts that the trees of the compiler output list, one tree after another. No
source file behind the one that has the contract is read, so nothing that stands there matters.
-/

namespace StorageCompat.SyntaxTree

/-- Kinds that are given by names: one name, or several of which each will do. -/
inductive NodeKind.GivenBy : NodeKind → List String → Prop where
  | exactly (name : String) : GivenBy (.exactly (.text name)) [name]
  | anyOf (names : List String) : GivenBy (.anyOf (names.map Value.text)) names

def HasKind (names : List String) (node : Value) : Prop :=
  ∃ entries, node = .object entries ∧ ∃ name ∈ names, entries.lookup "nodeType" = some (.text name)

theorem entryOrNull_eq_text_iff (name text : String) (entries : List (String × Value)) :
    entryOrNull name entries = .text text ↔ entries.lookup name = some (.text text) := by
  unfold entryOrNull
  cases entries.lookup name with
  | none => simp
  | some value => simp

theorem NodeKind.GivenBy.accepts_iff {kind : NodeKind} {names : List String}
    (given : kind.GivenBy names) (value : Value) :
    kind.accepts value = true ↔ ∃ name ∈ names, value = .text name := by
  cases given with
  | exactly name =>
      change value.same (.text name) = true ↔ _
      simp [Value.same_text_iff]
  | anyOf =>
      have other (name : String) : (Value.text name).isNan = false := rfl
      simp only [accepts, List.any_map, List.any_eq_true, Function.comp_apply, other,
        Bool.and_false, Bool.or_false, Value.same_text_iff]

theorem isNode_iff_hasKind {kind : NodeKind} {names : List String} (given : kind.GivenBy names)
    (node : Value) : isNode kind node = true ↔ HasKind names node := by
  cases node with
  | object entries =>
      change kind.accepts (kindOf entries) = true ↔ _
      simp [given.accepts_iff, kindOf, entryOrNull_eq_text_iff, HasKind]
  | _ => simp [isNode, HasKind]

theorem nodesOfItems_eq (kind : NodeKind) (items : List Value) :
    nodesOfItems kind items = items.flatMap (nodesOf kind) := by
  induction items with
  | nil => rfl
  | cons item rest ih => rw [nodesOfItems, ih, List.flatMap_cons]

theorem nodesOfEntries_eq (kind : NodeKind) (entries : List (String × Value)) :
    nodesOfEntries kind entries = (entries.map Prod.snd).flatMap (nodesOf kind) := by
  induction entries with
  | nil => rfl
  | cons entry rest ih => rw [nodesOfEntries, ih, List.map_cons, List.flatMap_cons]

theorem nodesOf_eq (kind : NodeKind) (tree : Value) :
    nodesOf kind tree =
      (if isNode kind tree = true then [tree] else []) ++ tree.parts.flatMap (nodesOf kind) := by
  cases tree with
  | object entries => exact congrArg (_ ++ ·) (nodesOfEntries_eq kind entries)
  | list items => exact nodesOfItems_eq kind items
  | _ => rfl

theorem exists_enumerates_nodesOf {kind : NodeKind} {names : List String}
    (given : kind.GivenBy names) (tree : Value) :
    ∃ positions, Value.Enumerates (HasKind names) tree positions (nodesOf kind tree) := by
  obtain ⟨positions, enumerates⟩ := Value.exists_enumerates (nodesOf_eq kind) tree
  exact ⟨positions, enumerates.congr (isNode_iff_hasKind given)⟩

/-- Compiler output lists these source files, which are objects; it may list none at all. -/
inductive ListsFiles (output : List (String × Value)) : List (String × Value) → Prop where
  | unlisted (absent : output.lookup "sources" = none) : ListsFiles output []
  | listed {files : List (String × Value)} (found : output.lookup "sources" = some (.object files))
      (objects : ∀ file ∈ files, ∃ entries, file.2 = .object entries) : ListsFiles output files

def treeIn? : Value → Option Value
  | .object entries =>
      match entries.lookup "ast" with
      | none | some .null => none
      | some tree => some tree
  | _ => none

def treesAmong (output files : List (String × Value)) : List Value :=
  if isNode sourceUnit (.object output) then [.object output]
  else files.filterMap fun file => treeIn? file.2

def declarationsIn (trees : List Value) : List Value :=
  trees.flatMap (nodesOf contractDefinition)

theorem declarationsIn_cons (tree : Value) (rest : List Value) :
    declarationsIn (tree :: rest) = nodesOf contractDefinition tree ++ declarationsIn rest :=
  List.flatMap_cons

structure FirstNamed (name : Value) (nodes : List Value) (found : Value) : Prop where
  first : ∃ before behind, nodes = before ++ found :: behind ∧
    ∀ earlier ∈ before, hasName name earlier = false
  named : hasName name found = true

theorem hasName_text_iff (text : String) (node : Value) :
    hasName (.text text) node = true ↔
      ∃ entries, node = .object entries ∧ entries.lookup "name" = some (.text text) := by
  cases node with
  | object entries => simp [hasName, Value.same_text_iff, entryOrNull_eq_text_iff]
  | _ => simp [hasName]

theorem find?_eq_some_iff_firstNamed (name : Value) (nodes : List Value) (found : Value) :
    nodes.find? (hasName name) = some found ↔ FirstNamed name nodes found := by
  rw [List.find?_eq_some_iff_append]
  simp only [Bool.not_eq_true']
  exact ⟨fun given => ⟨given.2, given.1⟩, fun given => ⟨given.named, given.first⟩⟩

theorem result_tree? (path : String) (entries : List (String × Value)) :
    (tree? path (.object entries)).result = .ok (treeIn? (.object entries)) := by
  rw [tree?, treeIn?, Value.entry?]
  cases entries.lookup "ast" with
  | none => rfl
  | some tree => cases tree <;> rfl

theorem contractInFile?_eq (name file : Value) :
    contractInFile? name file = (treeIn? file).bind (contractIn? name) := by
  cases file with
  | object entries =>
      rw [contractInFile?, treeIn?]
      cases entries.lookup "ast" with
      | none => rfl
      | some tree => cases tree <;> rfl
  | _ => rfl

/-- Searching the files one after another is searching all that they list. -/
theorem findSome?_contractInFile? (name : Value) (files : List (String × Value)) :
    (files.findSome? fun file => contractInFile? name file.2) =
      (declarationsIn (files.filterMap fun file => treeIn? file.2)).find? (hasName name) := by
  induction files with
  | nil => rfl
  | cons file rest ih =>
      rw [List.findSome?_cons, ih, contractInFile?_eq]
      rw [List.filterMap_cons]
      cases treeIn? file.2 with
      | none => rfl
      | some tree =>
          change _ = (declarationsIn (tree :: _)).find? (hasName name)
          rw [declarationsIn_cons, List.find?_append, Option.bind_some, contractIn?]
          cases (nodesOf contractDefinition tree).find? (hasName name) <;> rfl

theorem filesReadable_of_objects (name : Value) {files : List (String × Value)}
    (objects : ∀ file ∈ files, ∃ entries, file.2 = .object entries) : FilesReadable name files := by
  intro before file behind parts _
  have member : file ∈ files := parts ▸ List.mem_append_right before List.mem_cons_self
  obtain ⟨entries, object⟩ := objects file member
  rw [object]
  rfl

section

variable {output files : List (String × Value)}

theorem ListsFiles.files_eq (lists : ListsFiles output files) :
    SyntaxTree.files (.object output) = .ok files := by
  rw [SyntaxTree.files, Value.entry?]
  cases lists with
  | unlisted absent => rw [absent]; rfl
  | listed found => rw [found]; rfl

theorem ListsFiles.exists_object (lists : ListsFiles output files) :
    ∀ file ∈ files, ∃ entries, file.2 = .object entries := by
  cases lists with
  | unlisted => exact List.forall_mem_nil _
  | listed _ objects => exact objects

theorem filterMapM_tree? (objects : ∀ file ∈ files, ∃ entries, file.2 = .object entries) :
    (files.filterMapM fun file => (tree? file.1 file.2).result) =
      .ok (files.filterMap fun file => treeIn? file.2) := by
  induction files with
  | nil => rfl
  | cons file rest ih =>
      obtain ⟨⟨entries, object⟩, objects⟩ := List.forall_mem_cons.1 objects
      have read : (tree? file.1 file.2).result = .ok (treeIn? file.2) := by
        rw [object]
        exact result_tree? file.1 entries
      rw [List.filterMapM_cons, read, ih objects, List.filterMap_cons]
      cases treeIn? file.2 <;> rfl

/-- The trees of compiler output are those of its files, unless it is a tree itself. -/
theorem ListsFiles.result_trees (lists : ListsFiles output files) :
    (trees (.object output)).result = .ok (treesAmong output files) := by
  unfold trees treesAmong
  split
  case isTrue => rfl
  case isFalse =>
    rw [Logged.result_bind, Logged.result_lift, lists.files_eq]
    change (files.filterMapM fun file => tree? file.1 file.2).result = _
    rw [Logged.result_filterMapM, filterMapM_tree? lists.exists_object]

/-- The search finds the first contract of the name among all that are declared. -/
theorem ListsFiles.result_contract? (lists : ListsFiles output files) (name : Value) :
    (contract? (.object output) name).result =
      .ok ((declarationsIn (treesAmong output files)).find? (hasName name)) := by
  unfold contract? treesAmong
  split
  case isTrue =>
    rw [declarationsIn, List.flatMap_singleton]
    rfl
  case isFalse =>
    have readable := filesReadable_of_objects name lists.exists_object
    obtain ⟨-, read⟩ | ⟨unreadable, -⟩ := contractAmong?_cases name files
    · rw [Logged.result_bind, Logged.result_lift, lists.files_eq, ← findSome?_contractInFile?]
      exact read
    · exact absurd readable unreadable

theorem ListsFiles.result_contract (lists : ListsFiles output files) (name : Value) :
    (contract (.object output) name).result =
      match (declarationsIn (treesAmong output files)).find? (hasName name) with
      | some found => .ok found
      | none => .error (.contractNotFound name) := by
  rw [contract, Logged.result_bind, lists.result_contract?]
  change (match (declarationsIn (treesAmong output files)).find? (hasName name) with
    | some found => (pure found : Logged Value)
    | none => throw (Fault.contractNotFound name)).result = _
  cases (declarationsIn (treesAmong output files)).find? (hasName name) <;> rfl

theorem ListsFiles.contract_eq_ok_iff (lists : ListsFiles output files) (name found : Value) :
    (contract (.object output) name).result = .ok found ↔
      FirstNamed name (declarationsIn (treesAmong output files)) found := by
  rw [lists.result_contract, ← find?_eq_some_iff_firstNamed]
  cases (declarationsIn (treesAmong output files)).find? (hasName name) with
  | none => simp
  | some other => simp

theorem ListsFiles.contract_eq_error_iff (lists : ListsFiles output files) (name : Value)
    (fault : Fault) :
    (contract (.object output) name).result = .error fault ↔
      fault = .contractNotFound name ∧
        ∀ node ∈ declarationsIn (treesAmong output files), hasName name node = false := by
  have absent : (∀ node ∈ declarationsIn (treesAmong output files), hasName name node = false) ↔
      (declarationsIn (treesAmong output files)).find? (hasName name) = none := by
    simp [List.find?_eq_none]
  rw [lists.result_contract, absent]
  cases (declarationsIn (treesAmong output files)).find? (hasName name) with
  | none => simp [eq_comm]
  | some other => simp

end

theorem tree?_eq_pure {file tree : Value} (has : treeIn? file = some tree) (path : String) :
    tree? path file = pure (some tree) := by
  cases file with
  | object entries =>
      rw [treeIn?] at has
      rw [tree?, Value.entry?]
      cases found : entries.lookup "ast" with
      | none =>
          rw [found] at has
          cases has
      | some ast =>
          rw [found] at has
          cases ast with
          | null => cases has
          | _ => cases has; rfl
  | _ => cases has

def Declares (name file : Value) : Prop :=
  ∃ tree, treeIn? file = some tree ∧
    ∃ node ∈ nodesOf contractDefinition tree, hasName name node = true

theorem contractAmong?_append {name : Value} {file : String × Value}
    (declares : Declares name file.2) (before behind behind' : List (String × Value)) :
    contractAmong? name (before ++ file :: behind) =
      contractAmong? name (before ++ file :: behind') := by
  induction before with
  | nil =>
      obtain ⟨path, value⟩ := file
      obtain ⟨tree, has, node, member, named⟩ := declares
      obtain ⟨found, located⟩ := Option.isSome_iff_exists.1
        (List.find?_isSome.2 ⟨node, member, named⟩)
      simp only [List.nil_append, contractAmong?, tree?_eq_pure has, pure_bind, Option.bind_some,
        contractIn?, located]
  | cons other before ih =>
      simp only [List.cons_append, contractAmong?]
      apply bind_congr
      intro tree
      cases tree.bind (contractIn? name) with
      | none => exact ih
      | some contract => rfl

theorem contract?_eq_contractAmong? {output files : List (String × Value)}
    (several : ¬HasKind ["SourceUnit"] (.object output))
    (found : output.lookup "sources" = some (.object files)) (name : Value) :
    contract? (.object output) name = contractAmong? name files := by
  have other : ¬isNode sourceUnit (.object output) = true :=
    mt (isNode_iff_hasKind (.exactly "SourceUnit") _).1 several
  have listed : SyntaxTree.files (.object output) = .ok files := by
    rw [SyntaxTree.files, Value.entry?, found]
    rfl
  rw [contract?, if_neg other, listed]
  exact pure_bind files (contractAmong? name)

/-- What stands behind the file that declares the contract has no part in the search for it. -/
theorem contract_eq_of_append {name : Value} {file : String × Value}
    {output output' before behind behind' : List (String × Value)}
    (declares : Declares name file.2) (several : ¬HasKind ["SourceUnit"] (.object output))
    (listed : output.lookup "sources" = some (.object (before ++ file :: behind)))
    (kind : output'.lookup "nodeType" = output.lookup "nodeType")
    (listed' : output'.lookup "sources" = some (.object (before ++ file :: behind'))) :
    contract (.object output') name = contract (.object output) name := by
  have several' : ¬HasKind ["SourceUnit"] (.object output') := by
    simpa [HasKind, kind] using several
  rw [contract, contract, contract?_eq_contractAmong? several listed,
    contract?_eq_contractAmong? several' listed', contractAmong?_append declares before behind']

/-- A search for nodes lists those of the kind in document order. A search for a contract gives the
first one of the name that compiler output declares, and fails only if there is none; nothing
behind the file that declares it is read. -/
theorem search_documentOrder :
    (∀ kind names, NodeKind.GivenBy kind names →
      (∀ node, isNode kind node = true ↔ HasKind names node) ∧
      ∀ tree, ∃ positions, Value.Enumerates (HasKind names) tree positions (nodesOf kind tree)) ∧
    (∀ text node, hasName (.text text) node = true ↔
      ∃ entries, node = .object entries ∧ entries.lookup "name" = some (.text text)) ∧
    ∀ output files, ListsFiles output files →
      (trees (.object output)).result = .ok (treesAmong output files) ∧
      ∀ name,
        (∀ found, (contract (.object output) name).result = .ok found ↔
          FirstNamed name (declarationsIn (treesAmong output files)) found) ∧
        (∀ fault, (contract (.object output) name).result = .error fault ↔
          fault = .contractNotFound name ∧
            ∀ node ∈ declarationsIn (treesAmong output files), hasName name node = false) ∧
        ∀ before file behind, files = before ++ file :: behind → Declares name file.2 →
          ¬HasKind ["SourceUnit"] (.object output) →
          ∀ output' behind', output'.lookup "nodeType" = output.lookup "nodeType" →
            output'.lookup "sources" = some (.object (before ++ file :: behind')) →
            contract (.object output') name = contract (.object output) name := by
  refine ⟨?_, hasName_text_iff, ?_⟩
  · intro kind names given
    exact ⟨isNode_iff_hasKind given, exists_enumerates_nodesOf given⟩
  · intro output files lists
    refine ⟨lists.result_trees, fun name => ⟨lists.contract_eq_ok_iff name,
      lists.contract_eq_error_iff name, ?_⟩⟩
    intro before file behind parts declares several output' behind' kind listed'
    cases lists with
    | unlisted =>
        have nonempty : before ++ file :: behind ≠ [] := by simp
        exact absurd parts.symm nonempty
    | listed found =>
        rw [parts] at found
        exact contract_eq_of_append declares several found kind listed'

def declarationOfContract (name : String) (nodes : List Value) : Value :=
  .object [("nodeType", .text "ContractDefinition"), ("name", .text name), ("nodes", .list nodes)]

def outerVault : Value := declarationOfContract "Vault" [.null, declarationOfContract "Vault" []]

def vaultFile : Value :=
  .object [("ast", .object [("nodeType", .text "SourceUnit"),
    ("nodes", .list [declarationOfContract "Base" [], outerVault])])]

def vaultFiles (last : Value) : List (String × Value) :=
  [("Interfaces.sol", .object [("ast", .null)]), ("Vault.sol", vaultFile), ("Test.sol", last)]

def vaultOutput (last : Value) : List (String × Value) :=
  [("sources", .object (vaultFiles last))]

theorem search_documentOrder_vault :
    NodeKind.GivenBy contractDefinition ["ContractDefinition"] ∧
      ListsFiles (vaultOutput (.object [])) (vaultFiles (.object [])) ∧
      Declares (.text "Vault") vaultFile ∧
      ¬HasKind ["SourceUnit"] (.object (vaultOutput (.object []))) ∧
      (∃ positions, Value.Enumerates (HasKind ["ContractDefinition"]) vaultFile positions
        [declarationOfContract "Base" [], outerVault, declarationOfContract "Vault" []]) ∧
      (contract (.object (vaultOutput (.object []))) (.text "Vault")).result = .ok outerVault ∧
      contract (.object (vaultOutput .null)) (.text "Vault") =
        contract (.object (vaultOutput (.object []))) (.text "Vault") := by
  have given : NodeKind.GivenBy contractDefinition ["ContractDefinition"] :=
    .exactly "ContractDefinition"
  have lists : ListsFiles (vaultOutput (.object [])) (vaultFiles (.object [])) := by
    apply ListsFiles.listed rfl
    simp [vaultFiles, vaultFile]
  have declares : Declares (.text "Vault") vaultFile :=
    ⟨_, rfl, outerVault, List.mem_cons_of_mem _ List.mem_cons_self, rfl⟩
  have several : ¬HasKind ["SourceUnit"] (.object (vaultOutput (.object []))) :=
    mt (isNode_iff_hasKind (.exactly "SourceUnit") _).2 Bool.false_ne_true
  obtain ⟨kinds, -, outputs⟩ := search_documentOrder
  obtain ⟨-, names⟩ := outputs _ _ lists
  obtain ⟨first, -, unread⟩ := names (.text "Vault")
  refine ⟨given, lists, declares, several, (kinds _ _ given).2 vaultFile, (first outerVault).2 ?_,
    unread [_] (_, vaultFile) [_] rfl declares several (vaultOutput .null) [_] rfl rfl⟩
  exact ⟨⟨[declarationOfContract "Base" []], [declarationOfContract "Vault" []], rfl,
    List.forall_mem_singleton.2 rfl⟩, rfl⟩

end StorageCompat.SyntaxTree
